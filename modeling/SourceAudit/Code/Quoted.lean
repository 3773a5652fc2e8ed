/-
What stands inside string literals: escapes, which must be complete, and in
formatted literals the fields, whose expressions are source code again.
-/
import SourceAudit.Code.Parser

namespace SourceAudit.Code

-- ============================================================= escapes

/-- Whether a text starts with `count` hexadecimal digits. -/
def startsWithHex (count : Nat) (cs : List Char) : Bool :=
  let digits := cs.take count
  digits.length == count && (Text.hexNumber? digits).isSome

def escapesComplete : List Char → Bool
  | [] => true
  | '\\' :: c :: rest =>
    let whole : Bool :=
      if c == 'x' then startsWithHex 2 rest
      else if c == 'u' then startsWithHex 4 rest
      else if c == 'U' then startsWithHex 8 rest && (Text.hexNumber? (rest.take 8)).any (· ≤ 0x10FFFF)
      else if c == 'N' then
        match rest with
        | '\x7b' :: tail =>
          let name := tail.takeWhile (· != '\x7d')
          !name.isEmpty && name.length < tail.length && name.all fun d => d.toNat < 128
        | _ => false
      else true
    whole && escapesComplete rest
  | _ :: rest => escapesComplete rest

/-- Whether the escapes of a byte literal are complete and its characters ASCII. -/
def bytesComplete : List Char → Bool
  | [] => true
  | '\\' :: c :: rest =>
    c.toNat < 128 && (c != 'x' || startsWithHex 2 rest) && bytesComplete rest
  | c :: rest => c.toNat < 128 && bytesComplete rest

-- ============================================================== fields

/-- What ends a stretch of plain text in a formatted literal. -/
inductive Stop where
  /-- The end of the text or a brace. -/
  | here
  /-- A doubled brace, which stands for itself. -/
  | doubled

def isBrace (c : Char) : Bool :=
  c == '\x7b' || c == '\x7d'

/-- A brace after plain text. In a format specification it ends the text;
elsewhere a doubled one stands for itself and a closing one may not stand alone. -/
def plainBrace (nested : Bool) (done : List Char) (c : Char) (rest : List Char) :
    Option (List Char × Stop × List Char) :=
  if nested then some (done, .here, c :: rest)
  else if rest.head? == some c then some (c :: done, .doubled, rest.drop 1)
  else if c == '\x7d' then none
  else some (done, .here, c :: rest)

/-- Where plain text stands: between escapes, after a backslash, after the
letter of a named character, inside the braces of its name. -/
inductive Within where
  | text
  | escape
  | named
  | name

/-- Plain text in a formatted literal: the stretch, last character first, what
ended it and the rest. -/
def plainStretch (raw nested : Bool) (within : Within) (done : List Char) :
    List Char → Option (List Char × Stop × List Char)
  | [] => some (done, .here, [])
  | c :: rest =>
    match within with
    | .text =>
      if c == '\\' && !raw then plainStretch raw nested .escape (c :: done) rest
      else if isBrace c then plainBrace nested done c rest
      else plainStretch raw nested .text (c :: done) rest
    | .escape =>
      if isBrace c then plainBrace nested done c rest
      else plainStretch raw nested (if c == 'N' then .named else .text) (c :: done) rest
    | .named => plainStretch raw nested (if c == '\x7b' then .name else .text) (c :: done) rest
    | .name => plainStretch raw nested (if c == '\x7d' then .text else .name) (c :: done) rest

def closes (opening closing : Char) : Bool :=
  (opening == '(' && closing == ')') || (opening == '[' && closing == ']') ||
    (opening == '\x7b' && closing == '\x7d')

/-- Where the expression of a field stands: the number of characters that were
looked at ahead, the quote of the literal that is open and whether it is
tripled, and the open brackets, innermost first. -/
structure FieldState where
  ahead : Nat := 0
  quote : Option (Char × Bool) := none
  brackets : List Char := []

/-- What a character does to the expression of a field, given what follows it:
ends it (`none`), or moves on to a state; an error is the outer `none`. -/
def FieldState.step (state : FieldState) (c : Char) (rest : List Char) :
    Option (Option FieldState) :=
  let tripled : Bool := [c, c].isPrefixOf rest
  if c == '\\' then none
  else if 0 < state.ahead then some (some { state with ahead := state.ahead - 1 })
  else
    match state.quote with
    | some (q, true) =>
      some (some (if c == q && tripled then { state with quote := none, ahead := 2 } else state))
    | some (q, false) => some (some (if c == q then { state with quote := none } else state))
    | none =>
      if c == '"' || c == '\'' then
        some (some { state with quote := some (c, tripled), ahead := if tripled then 2 else 0 })
      else if c == '(' || c == '[' || c == '\x7b' then
        if bracketLimit ≤ state.brackets.length then none
        else some (some { state with brackets := c :: state.brackets })
      else if c == '#' then none
      else
        match state.brackets with
        | [] =>
          if (c == '!' || c == '=' || c == '<' || c == '>') && rest.head? == some '=' then
            some (some { state with ahead := 1 })
          else if c == '!' || c == ':' || c == '\x7d' || c == '=' then some none
          else if c == ')' || c == ']' then none
          else some (some state)
        | top :: below =>
          if c == ')' || c == ']' || c == '\x7d' then
            if closes top c then some (some { state with brackets := below }) else none
          else some (some state)

/-- The expression at the front of a field and the rest, which starts with what
ended it. -/
def fieldExpression (state : FieldState) (done : List Char) :
    List Char → Option (List Char × List Char)
  | [] => none
  | c :: rest =>
    match state.step c rest with
    | none => none
    | some none => some (done.reverse, c :: rest)
    | some (some state) => fieldExpression state (c :: done) rest

def fieldTree? (self : Rules) (text : List Char) : Option Tree := do
  if text.all fun c => c == ' ' || c == '\t' || c == '\n' || c == '\x0c' then failure
  let tokens ← tokens? ('(' :: text ++ [')'])
  let (tree, _) ← ((self .expressions).run 0).run tokens
  return tree

/-- Skips the sign that asks for the text of the expression, and blanks after it. -/
def skipEcho : List Char → List Char
  | '=' :: rest => rest.dropWhile fun c => c == ' ' || (9 ≤ c.toNat && c.toNat ≤ 13)
  | rest => rest

def skipConversion : List Char → Option (List Char)
  | '!' :: rest =>
    match rest with
    | c :: after => if c == 's' || c == 'r' || c == 'a' then some after else none
    | [] => none
  | rest => some rest

/-- The trees of the fields of a formatted literal, and the rest. Level 0 is the
literal itself, level 1 a format specification inside it; deeper ones may hold
no fields. -/
def fieldTrees (self : Rules) (raw : Bool) : Nat → Nat → List Char → Option (List Tree × List Char)
  | 0, _, _ => none
  | fuel + 1, level, cs => do
    let (stretch, stop, rest) ← plainStretch raw (level != 0) .text [] cs
    if !raw && !escapesComplete stretch.reverse then failure
    match stop, rest with
    | .doubled, _ => fieldTrees self raw fuel level rest
    | .here, [] => if level == 0 then some ([], []) else none
    | .here, '\x7d' :: _ => some ([], rest)
    | .here, _ :: body =>
      if 2 ≤ level then failure
      let (text, after) ← fieldExpression {} [] body
      let tree ← fieldTree? self text
      let after ← skipConversion (skipEcho after)
      let (inner, after) ←
        match after with
        | ':' :: spec => fieldTrees self raw fuel (level + 1) spec
        | _ => some ([], after)
      match after with
      | '\x7d' :: rest =>
        let (more, rest) ← fieldTrees self raw fuel level rest
        return (tree :: inner ++ more, rest)
      | _ => failure

/-- The trees of the expressions inside a literal, if the literal is proper. -/
def literalTrees? (self : Rules) (l : Literal) : Option (List Tree) :=
  if l.bytes then
    if l.body.all (fun c => c.toNat < 128) && (l.raw || bytesComplete l.body) then some []
    else none
  else if l.formatted then
    (fieldTrees self l.raw (l.body.length + 1) 0 l.body).map Prod.fst
  else if l.raw || escapesComplete l.body then some []
  else none

end SourceAudit.Code
