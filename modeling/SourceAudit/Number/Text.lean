/-
Numbers as text. A real number is written with the fewest digits that read back
as the same number, positionally while the decimal point lies within sixteen
digits to the right and four places to the left of the first digit, and with an
exponent of at least two digits beyond that. A whole value keeps one zero after
the point.
-/
import SourceAudit.Number.Shortest

namespace SourceAudit.Number

/-- The format of real numbers. -/
structure RealFormat where
  /-- Positional notation ends above this position of the decimal point. -/
  lastPoint : Int
  /-- Positional notation begins above this position of the decimal point. -/
  belowPoint : Int
  /-- Least number of digits in an exponent. -/
  exponentWidth : Nat
  infinity : String
  notANumber : String

def shown : RealFormat := ⟨16, -4, 2, "inf", "nan"⟩

def inJson : RealFormat := { shown with infinity := "Infinity", notANumber := "NaN" }

def positional (d : Decimal) : String :=
  if d.point ≤ 0 then
    "0." ++ String.ofList (List.replicate (-d.point).toNat '0' ++ d.digits)
  else
    let p := d.point.toNat
    if d.digits.length ≤ p then
      String.ofList (d.digits ++ List.replicate (p - d.digits.length) '0') ++ ".0"
    else String.ofList (d.digits.take p) ++ "." ++ String.ofList (d.digits.drop p)

def withExponent (width : Nat) (d : Decimal) : String :=
  let e := d.point - 1
  let digits := Nat.toDigits 10 e.natAbs
  let mantissa :=
    match d.digits with
    | [] => ""
    | [c] => c.toString
    | c :: rest => c.toString ++ "." ++ String.ofList rest
  mantissa ++ "e" ++ (if e < 0 then "-" else "+") ++
    String.ofList (List.replicate (width - digits.length) '0' ++ digits)

def RealFormat.text (f : RealFormat) (x : Float) : String :=
  match parts x with
  | .notANumber => f.notANumber
  | .infinite negative => (if negative then "-" else "") ++ f.infinity
  | .finite negative v =>
    let d := shortest v
    (if negative then "-" else "") ++
      (if f.belowPoint < d.point && d.point ≤ f.lastPoint then positional d
       else withExponent f.exponentWidth d)

/-- A quotient rounded to the nearest whole number, a half to the even one. -/
def roundDiv (num den : Nat) : Nat :=
  let q := num / den
  let r := num % den
  if 2 * r < den then q else if den < 2 * r then q + 1 else if q % 2 == 0 then q else q + 1

def fixed (places : Nat) (x : Float) : String :=
  match parts x with
  | .notANumber => "nan"
  | .infinite negative => if negative then "-inf" else "inf"
  | .finite negative v =>
    let num := v.mantissa * Nat.pow 10 places
    let n :=
      if 0 ≤ v.exponent then num * Nat.pow 2 v.exponent.toNat
      else roundDiv num (Nat.pow 2 (-v.exponent).toNat)
    let digits := Nat.toDigits 10 n
    let padded := List.replicate (places + 1 - digits.length) '0' ++ digits
    let whole := padded.take (padded.length - places)
    (if negative then "-" else "") ++ String.ofList whole ++
      (if places == 0 then "" else "." ++ String.ofList (padded.drop (padded.length - places)))

/-- The number `digits * 10 ^ exponent`, rounded to the nearest float. Exponents
beyond the range of floats give infinity and zero at once. -/
def ofDecimal (negative : Bool) (digits : Nat) (exponent : Int) : Float :=
  let size : Int := (Nat.toDigits 10 digits).length + exponent
  let x : Float :=
    if digits == 0 then 0
    else if 400 < size then 1 / 0
    else if size < -400 then 0
    else Float.ofScientific digits (decide (exponent < 0)) exponent.natAbs
  if negative then -x else x

/-- The whole part of a real number; infinity and what is no number have none. -/
def whole? (x : Float) : Option Int :=
  match parts x with
  | .finite negative v =>
    let size : Nat :=
      if 0 ≤ v.exponent then v.mantissa * Nat.pow 2 v.exponent.toNat
      else v.mantissa / Nat.pow 2 (-v.exponent).toNat
    some (if negative then -(size : Int) else size)
  | _ => none

end SourceAudit.Number
