/-
Whole numbers read from text: an optional sign and decimal digits of any script,
single low lines allowed between them, blanks allowed around them.
-/
import SourceAudit.Text.Blank
import SourceAudit.Text.Digit

namespace SourceAudit.Text

/-- Digits with single low lines between them, read after a first digit. -/
def digitsFrom (value : Nat) : List Char → Option Nat
  | [] => some value
  | '_' :: c :: rest => (digitValue? c).bind fun d => digitsFrom (value * 10 + d) rest
  | c :: rest => (digitValue? c).bind fun d => digitsFrom (value * 10 + d) rest

/-- Digits without a sign; at least one is needed. -/
def unsignedNumeral? : List Char → Option Nat
  | [] => none
  | c :: rest => (digitValue? c).bind fun d => digitsFrom d rest

def digitLimit : Nat := 4300

/-- How many digits a text begins with, after blanks and a sign and with single low
lines between them, if they are too many; what follows them does not matter. -/
def digitsBeyondLimit? (s : String) : Option Nat :=
  let unsigned := match trimStart s.toList with
    | '-' :: rest => rest
    | '+' :: rest => rest
    | cs => cs
  let digits := unsigned.takeWhile fun c => isDigit c || c == '_'
  let count := digits.countP isDigit
  if digitLimit < count && (unsignedNumeral? digits).isSome then some count else none

/-- The whole number that a text spells, if it spells one. -/
def numeral? (s : String) : Option Int :=
  match trimEnd (trimStart s.toList) with
  | '-' :: rest => (unsignedNumeral? rest).map fun n => -(n : Int)
  | '+' :: rest => (unsignedNumeral? rest).map Int.ofNat
  | cs => (unsignedNumeral? cs).map Int.ofNat

end SourceAudit.Text
