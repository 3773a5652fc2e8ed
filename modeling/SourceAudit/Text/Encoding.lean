/-
Bytes as text: UTF-8, read strictly or with broken bytes left out, and the line
endings of a text file.

Reading goes one character at a time. A step either yields a character with the
bytes it takes or names the flaw with the bytes it spoils; the two readers
differ only in what they do with a flaw.
-/
namespace SourceAudit.Text

/-- What is wrong with a sequence of bytes that is not UTF-8. -/
inductive Utf8Flaw where
  | invalidStart
  | invalidContinuation
  | unexpectedEnd
  deriving DecidableEq, Repr

def Utf8Flaw.reason : Utf8Flaw → String
  | .invalidStart => "invalid start byte"
  | .invalidContinuation => "invalid continuation byte"
  | .unexpectedEnd => "unexpected end of data"

/-- The outcome of reading one character off a sequence of bytes: the character
or the flaw, with the number of bytes it covers. -/
inductive Utf8Step where
  | char (c : Char) (size : Nat)
  | flaw (f : Utf8Flaw) (size : Nat)

def isContinuation (b : UInt8) : Bool :=
  0x80 ≤ b && b < 0xC0

/-- The low six bits of a continuation byte. -/
def payload (b : UInt8) : Nat :=
  (b &&& 0x3F).toNat

/-- Whether the second byte of a three-byte character is in its range: after
0xE0 the overlong forms and after 0xED the surrogates are left out. -/
def secondOfThree (lead b : UInt8) : Bool :=
  isContinuation b && !(if b < 0xA0 then lead == 0xE0 else lead == 0xED)

/-- Whether the second byte of a four-byte character is in its range: after 0xF0
the overlong forms and after 0xF4 what lies beyond the last code point are left
out. -/
def secondOfFour (lead b : UInt8) : Bool :=
  isContinuation b && !(if b < 0x90 then lead == 0xF0 else lead == 0xF4)

/-- Reads one character after its first byte. -/
def utf8Step (lead : UInt8) (rest : List UInt8) : Utf8Step :=
  if lead < 0x80 then .char (Char.ofNat lead.toNat) 1
  else if lead < 0xC2 then .flaw .invalidStart 1
  else if lead < 0xE0 then
    match rest with
    | [] => .flaw .unexpectedEnd 1
    | b :: _ =>
      if isContinuation b then .char (Char.ofNat ((lead &&& 0x1F).toNat * 64 + payload b)) 2
      else .flaw .invalidContinuation 1
  else if lead < 0xF0 then
    match rest with
    | [] => .flaw .unexpectedEnd 1
    | [b] => if secondOfThree lead b then .flaw .unexpectedEnd 2 else .flaw .invalidContinuation 1
    | b :: c :: _ =>
      if !secondOfThree lead b then .flaw .invalidContinuation 1
      else if !isContinuation c then .flaw .invalidContinuation 2
      else .char (Char.ofNat (((lead &&& 0x0F).toNat * 64 + payload b) * 64 + payload c)) 3
  else if lead < 0xF5 then
    match rest with
    | [] => .flaw .unexpectedEnd 1
    | [b] => if secondOfFour lead b then .flaw .unexpectedEnd 2 else .flaw .invalidContinuation 1
    | [b, c] =>
      if !secondOfFour lead b then .flaw .invalidContinuation 1
      else if !isContinuation c then .flaw .invalidContinuation 2
      else .flaw .unexpectedEnd 3
    | b :: c :: d :: _ =>
      if !secondOfFour lead b then .flaw .invalidContinuation 1
      else if !isContinuation c then .flaw .invalidContinuation 2
      else if !isContinuation d then .flaw .invalidContinuation 3
      else
        .char (Char.ofNat
          ((((lead &&& 0x07).toNat * 64 + payload b) * 64 + payload c) * 64 + payload d)) 4
  else .flaw .invalidStart 1

/-- Where and how bytes fail to be UTF-8. -/
structure DecodeError where
  position : Nat
  size : Nat
  byte : UInt8
  flaw : Utf8Flaw
  deriving Repr

/-- A number in hexadecimal with at least `width` digits. -/
def hex (width n : Nat) : String :=
  let digits := Nat.toDigits 16 n
  String.ofList (List.replicate (width - digits.length) '0' ++ digits)

def DecodeError.message (e : DecodeError) : String :=
  if e.size == 1 then
    "'utf-8' codec can't decode byte 0x" ++ hex 2 e.byte.toNat ++ " in position " ++
      toString e.position ++ ": " ++ e.flaw.reason
  else
    "'utf-8' codec can't decode bytes in position " ++ toString e.position ++ "-" ++
      toString (e.position + e.size - 1) ++ ": " ++ e.flaw.reason

/-- Reads bytes as UTF-8 after the characters `done`, last one first; the first
flaw ends the reading. The counter skips the bytes that the last character
covers. -/
def decodeFrom (position : Nat) (done : List Char) :
    Nat → List UInt8 → Except DecodeError (List Char)
  | _, [] => .ok done.reverse
  | skip + 1, _ :: rest => decodeFrom (position + 1) done skip rest
  | 0, b :: rest =>
    match utf8Step b rest with
    | .char c size => decodeFrom (position + 1) (c :: done) (size - 1) rest
    | .flaw flaw size => .error ⟨position, size, b, flaw⟩

/-- Reads bytes as UTF-8 after the characters `done`, last one first, and leaves
out those that are not. -/
def decodeLenientFrom (done : List Char) : Nat → List UInt8 → List Char
  | _, [] => done.reverse
  | skip + 1, _ :: rest => decodeLenientFrom done skip rest
  | 0, b :: rest =>
    match utf8Step b rest with
    | .char c size => decodeLenientFrom (c :: done) (size - 1) rest
    | .flaw _ size => decodeLenientFrom done (size - 1) rest

/-- Line endings of a text file, after the characters `done`, last one first: a
carriage return, with its line feed if one follows, reads as a line feed. -/
def unifyNewlinesFrom (done : List Char) : List Char → List Char
  | [] => done.reverse
  | '\r' :: '\n' :: rest => unifyNewlinesFrom ('\n' :: done) rest
  | c :: rest => unifyNewlinesFrom ((if c == '\r' then '\n' else c) :: done) rest

def unifyNewlines (cs : List Char) : List Char :=
  unifyNewlinesFrom [] cs

def decode (bytes : List UInt8) : Except DecodeError String :=
  (decodeFrom 0 [] 0 bytes).map fun cs => String.ofList (unifyNewlines cs)

def decodeLenient (bytes : List UInt8) : String :=
  String.ofList (unifyNewlines (decodeLenientFrom [] 0 bytes))

def encode (s : String) : List UInt8 :=
  s.toUTF8.toList

end SourceAudit.Text
