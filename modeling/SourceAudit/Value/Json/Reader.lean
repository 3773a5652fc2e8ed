/-
JSON text as a value. Beyond the standard grammar the three words NaN, Infinity
and -Infinity are numbers. A field that comes twice keeps its first place and
its last value. A text that is not JSON is refused with the place of the flaw, and so is
a whole number with more digits than are taken, if there is a limit to them.
-/
import SourceAudit.Number.Text
import SourceAudit.Text.Digit
import SourceAudit.Value.Basic

namespace SourceAudit.Value.Json

/-- What is wrong with a text that is not JSON. -/
inductive Flaw where
  | expectedValue
  | expectedName
  | expectedColon
  | expectedComma
  | extraData
  | unterminated
  | controlCharacter
  | badEscape
  | badUnicodeEscape
  | byteOrderMark
  | tooManyDigits (count : Nat)
  deriving DecidableEq, Repr

def Flaw.reason : Flaw → String
  | .expectedValue => "Expecting value"
  | .expectedName => "Expecting property name enclosed in double quotes"
  | .expectedColon => "Expecting ':' delimiter"
  | .expectedComma => "Expecting ',' delimiter"
  | .extraData => "Extra data"
  | .unterminated => "Unterminated string starting at"
  | .controlCharacter => "Invalid control character at"
  | .badEscape => "Invalid \\escape"
  | .badUnicodeEscape => "Invalid \\uXXXX escape"
  | .byteOrderMark => "Unexpected UTF-8 BOM (decode using utf-8-sig)"
  | .tooManyDigits count => "Too many digits (" ++ toString count ++ ")"

/-- A flaw and the number of characters before it. -/
structure Misread where
  flaw : Flaw
  position : Nat
  deriving DecidableEq, Repr

/-- The wording of a refusal, with line and column in the text. -/
def Misread.message (text : String) (m : Misread) : String :=
  let before := text.toList.take m.position
  let line := before.count '\n' + 1
  let column := (before.reverse.takeWhile (· != '\n')).length + 1
  m.flaw.reason ++ ": line " ++ toString line ++ " column " ++ toString column ++
    " (char " ++ toString m.position ++ ")"

/-- What is left of the text, and how much lies before it. -/
structure Rest where
  chars : List Char
  position : Nat

def Rest.drop (n : Nat) (r : Rest) : Rest :=
  ⟨r.chars.drop n, r.position + n⟩

def isSpace (c : Char) : Bool :=
  c == ' ' || c == '\t' || c == '\n' || c == '\r'

def skipSpaceFrom (position : Nat) : List Char → Rest
  | [] => ⟨[], position⟩
  | c :: rest => if isSpace c then skipSpaceFrom (position + 1) rest else ⟨c :: rest, position⟩

def Rest.skipSpace (r : Rest) : Rest :=
  skipSpaceFrom r.position r.chars

-- ============================================================= strings

/-- The code unit that four hexadecimal digits spell. -/
def unit? (digits : List Char) : Option Nat :=
  if digits.length == 4 then Text.hexNumber? digits else none

def simpleEscape? (c : Char) : Option Char :=
  if c == '"' || c == '\\' || c == '/' then some c
  else if c == 'b' then some (Char.ofNat 0x08)
  else if c == 'f' then some (Char.ofNat 0x0C)
  else if c == 'n' then some '\n'
  else if c == 'r' then some '\r'
  else if c == 't' then some '\t'
  else none

/-- The low unit of a surrogate pair whose high unit was just read. -/
def lowUnit? (after : List Char) : Option Nat :=
  match after with
  | '\\' :: 'u' :: digits =>
    match unit? (digits.take 4), digits.drop 4 with
    | some low, _ :: _ => if 0xDC00 ≤ low && low ≤ 0xDFFF then some low else none
    | _, _ => none
  | _ => none

/-- The characters of a string up to its closing quote, after those in `done`,
last one first. `start` is the place of the opening quote; the counter skips
what an escape covers. -/
def stringFrom (start : Nat) (done : List Char) (position : Nat) :
    Nat → List Char → Except Misread (String × Rest)
  | _, [] => .error ⟨.unterminated, start⟩
  | skip + 1, _ :: rest => stringFrom start done (position + 1) skip rest
  | 0, c :: rest =>
    if c == '"' then .ok (String.ofList done.reverse, ⟨rest, position + 1⟩)
    else if c == '\\' then
      match rest with
      | [] => .error ⟨.unterminated, start⟩
      | 'u' :: digits =>
        if (digits.drop 4).isEmpty then .error ⟨.badUnicodeEscape, position + 2⟩
        else
          match unit? (digits.take 4) with
          | none => .error ⟨.badUnicodeEscape, position + 1⟩
          | some high =>
            if 0xD800 ≤ high && high ≤ 0xDBFF then
              match lowUnit? (digits.drop 4) with
              | some low =>
                let code := 0x10000 + (high - 0xD800) * 0x400 + (low - 0xDC00)
                stringFrom start (Char.ofNat code :: done) (position + 1) 11 rest
              | none => stringFrom start (Char.ofNat 0xFFFD :: done) (position + 1) 5 rest
            else stringFrom start (Char.ofNat high :: done) (position + 1) 5 rest
      | e :: _ =>
        match simpleEscape? e with
        | some image => stringFrom start (image :: done) (position + 1) 1 rest
        | none => .error ⟨.badEscape, position⟩
    else if c.toNat ≤ 0x1F then .error ⟨.controlCharacter, position⟩
    else stringFrom start (c :: done) (position + 1) 0 rest

def readString (r : Rest) : Except Misread (String × Rest) :=
  stringFrom (r.position - 1) [] r.position 0 r.chars

-- ============================================================= numbers

/-- The digits at the front of a text, and what follows them. -/
def spanDigits (cs : List Char) : List Char × List Char :=
  (cs.takeWhile Char.isDigit, cs.dropWhile Char.isDigit)

def digitsValue (ds : List Char) : Nat :=
  ds.foldl (fun n d => n * 10 + (d.toNat - 0x30)) 0

/-- The fraction at the front of a text: its digits, and what follows them. -/
def fraction (cs : List Char) : List Char × List Char :=
  match cs with
  | '.' :: d :: rest => if d.isDigit then spanDigits (d :: rest) else ([], cs)
  | _ => ([], cs)

/-- The sign in front of the digits of an exponent: whether it is a minus, its size, and
what follows it. -/
def exponentSign (cs : List Char) : Bool × Nat × List Char :=
  match cs with
  | '-' :: rest => (true, 1, rest)
  | '+' :: rest => (false, 1, rest)
  | _ => (false, 0, cs)

/-- The exponent at the front of a text, if there is one, and its size. -/
def exponent (cs : List Char) : Option Int × Nat :=
  match cs with
  | e :: rest =>
    if e == 'e' || e == 'E' then
      let (negative, sign, digits) := exponentSign rest
      match (spanDigits digits).1 with
      | [] => (none, 0)
      | ds =>
        (some (if negative then -(digitsValue ds : Int) else digitsValue ds), ds.length + sign + 1)
    else (none, 0)
  | [] => (none, 0)

/-- The whole part of a number: a single zero, or digits that do not begin with one. -/
def wholePart (cs : List Char) : List Char × List Char :=
  match cs with
  | '0' :: rest => (['0'], rest)
  | _ => spanDigits cs

/-- A number without its sign, and the number of its characters. -/
def readUnsigned (negative : Bool) (cs : List Char) : Option (Value × Nat) :=
  match wholePart cs with
  | ([], _) => none
  | (whole, afterWhole) =>
    let (frac, afterFraction) := fraction afterWhole
    let (exp, expSize) := exponent afterFraction
    let size := whole.length + (if frac.isEmpty then 0 else frac.length + 1) + expSize
    match frac, exp with
    | [], none =>
      let n : Int := digitsValue whole
      some (.int (if negative then -n else n), size)
    | _, _ =>
      some (.real (Number.ofDecimal negative (digitsValue (whole ++ frac))
        (exp.getD 0 - frac.length)), size)

def readNumber (cs : List Char) : Option (Value × Nat) :=
  match cs with
  | '-' :: rest => (readUnsigned true rest).map fun (value, size) => (value, size + 1)
  | _ => readUnsigned false cs

/-- The words that stand for values, longest first where one begins another. -/
def words : List (String × Value) :=
  [("null", .null), ("true", .bool true), ("false", .bool false), ("NaN", .real (0 / 0)),
   ("Infinity", .real (1 / 0)), ("-Infinity", .real (-1 / 0))]

def readPlain (r : Rest) : Except Misread (Value × Rest) :=
  match words.find? fun w => w.1.toList.isPrefixOf r.chars with
  | some (word, value) => .ok (value, r.drop word.length)
  | none =>
    match readNumber r.chars with
    | some (value, size) => .ok (value, r.drop size)
    | none => .error ⟨.expectedValue, r.position⟩

/-- A word or a number; a whole number may not have more digits than the limit. -/
def readWithin (limit : Option Nat) (r : Rest) : Except Misread (Value × Rest) :=
  match limit, readPlain r with
  | some most, .ok (.int n, after) =>
    let count := after.position - r.position - (if r.chars.head? == some '-' then 1 else 0)
    if most < count then .error ⟨.tooManyDigits count, r.position⟩ else .ok (.int n, after)
  | _, found => found

-- ============================================================== values

mutual

def readValue (limit : Option Nat) : Nat → Rest → Except Misread (Value × Rest)
  | 0, r => .error ⟨.expectedValue, r.position⟩
  | fuel + 1, r =>
    match r.chars with
    | '"' :: _ => (readString (r.drop 1)).map fun (s, after) => (.text s, after)
    | '[' :: _ =>
      let inside := (r.drop 1).skipSpace
      match inside.chars with
      | ']' :: _ => .ok (.list [], inside.drop 1)
      | _ => readItems limit fuel [] inside
    | '\x7b' :: _ =>
      let inside := (r.drop 1).skipSpace
      match inside.chars with
      | '\x7d' :: _ => .ok (.record [], inside.drop 1)
      | _ => readFields limit fuel [] inside
    | _ => readWithin limit r

/-- The items of a list after those in `done`, last one first. -/
def readItems (limit : Option Nat) : Nat → List Value → Rest → Except Misread (Value × Rest)
  | 0, _, r => .error ⟨.expectedValue, r.position⟩
  | fuel + 1, done, r =>
    match readValue limit fuel r with
    | .error e => .error e
    | .ok (item, afterItem) =>
      let after := afterItem.skipSpace
      match after.chars with
      | ']' :: _ => .ok (.list (item :: done).reverse, after.drop 1)
      | ',' :: _ => readItems limit fuel (item :: done) (after.drop 1).skipSpace
      | _ => .error ⟨.expectedComma, after.position⟩

/-- The fields of a record after those in `done`. -/
def readFields (limit : Option Nat) : Nat → List (String × Value) → Rest → Except Misread (Value × Rest)
  | 0, _, r => .error ⟨.expectedName, r.position⟩
  | fuel + 1, done, r =>
    match r.chars with
    | '"' :: _ =>
      match readString (r.drop 1) with
      | .error e => .error e
      | .ok (name, afterName) =>
        let colon := afterName.skipSpace
        match colon.chars with
        | ':' :: _ =>
          match readValue limit fuel (colon.drop 1).skipSpace with
          | .error e => .error e
          | .ok (value, afterValue) =>
            let fields := put name value done
            let after := afterValue.skipSpace
            match after.chars with
            | '\x7d' :: _ => .ok (.record fields, after.drop 1)
            | ',' :: _ => readFields limit fuel fields (after.drop 1).skipSpace
            | _ => .error ⟨.expectedComma, after.position⟩
        | _ => .error ⟨.expectedColon, colon.position⟩
    | _ => .error ⟨.expectedName, r.position⟩

end

/-- The value that a JSON text spells, with so many digits to a whole number at most. -/
def readUpTo (limit : Option Nat) (text : String) : Except Misread Value :=
  match text.toList with
  | '﻿' :: _ => .error ⟨.byteOrderMark, 0⟩
  | cs =>
    match readValue limit (2 * cs.length + 2) (Rest.skipSpace ⟨cs, 0⟩) with
    | .error e => .error e
    | .ok (value, after) =>
      let rest := after.skipSpace
      if rest.chars.isEmpty then .ok value else .error ⟨.extraData, rest.position⟩

/-- The value that a JSON text spells, with numbers of any size. -/
def read (text : String) : Except Misread Value :=
  readUpTo none text

end SourceAudit.Value.Json
