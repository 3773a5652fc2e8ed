/-
Real numbers read from text: an optional sign, decimal digits of any script with
an optional point and exponent, single low lines allowed between digits, blanks
allowed around the number; or one of the words for infinity and for no number.
-/
import SourceAudit.Number.Text
import SourceAudit.Text.Blank
import SourceAudit.Text.Digit

namespace SourceAudit.Text

/-- A digit of any script as an ASCII digit; other characters as they are. -/
def plainDigit (c : Char) : Char :=
  match digitValue? c with
  | some d => Char.ofNat (0x30 + d)
  | none => c

/-- Leaves out the low lines between digits; none if one stands elsewhere.
`afterDigit` says whether a digit comes before. -/
def joinDigits (afterDigit : Bool) : List Char → Option (List Char)
  | [] => some []
  | c :: rest =>
    if c == '_' then
      if afterDigit && (rest.head?).any Char.isDigit then joinDigits false rest else none
    else (joinDigits c.isDigit rest).map (c :: ·)

def digitsNumber (ds : List Char) : Nat :=
  ds.foldl (fun n d => 10 * n + (d.toNat - 0x30)) 0

/-- The exponent at the end of a number; without one it is zero. -/
def exponentOf? : List Char → Option Int
  | [] => some 0
  | c :: rest =>
    if c != 'e' && c != 'E' then none
    else
      let (negative, digits) := match rest with
        | '-' :: ds => (true, ds)
        | '+' :: ds => (false, ds)
        | ds => (false, ds)
      if digits.isEmpty || !digits.all Char.isDigit then none
      else
        let n : Int := digitsNumber digits
        some (if negative then -n else n)

/-- A number without its sign. -/
def unsignedDecimal? (negative : Bool) (cs : List Char) : Option Float :=
  let word := String.ofList (cs.map Char.toLower)
  if word == "inf" || word == "infinity" then some (if negative then -1 / 0 else 1 / 0)
  else if word == "nan" then some (0 / 0)
  else
    let whole := cs.takeWhile Char.isDigit
    let rest := cs.dropWhile Char.isDigit
    let (fraction, rest) := match rest with
      | '.' :: more => (more.takeWhile Char.isDigit, more.dropWhile Char.isDigit)
      | rest => ([], rest)
    if whole.isEmpty && fraction.isEmpty then none
    else (exponentOf? rest).map fun e =>
      Number.ofDecimal negative (digitsNumber (whole ++ fraction)) (e - fraction.length)

/-- The real number that a text spells, if it spells one. -/
def decimal? (s : String) : Option Float :=
  match joinDigits false ((trimEnd (trimStart s.toList)).map plainDigit) with
  | some ('-' :: cs) => unsignedDecimal? true cs
  | some ('+' :: cs) => unsignedDecimal? false cs
  | some cs => unsignedDecimal? false cs
  | none => none

end SourceAudit.Text
