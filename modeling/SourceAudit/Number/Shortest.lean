/-
The shortest decimal that reads back as a given binary number.

A finite number is m · 2^q. The reals that round to it form an interval around
it whose ends count when m is even. For one digit, two, and so on, the two
neighbours of the number on that decimal grid are tested in whole-number
arithmetic; the first grid with a neighbour in the interval gives the digits.
-/
namespace SourceAudit.Number

/-- A finite binary number apart from its sign: `mantissa * 2 ^ exponent`. -/
structure Binary where
  mantissa : Nat
  exponent : Int
  deriving Repr, DecidableEq

/-- What a float holds. -/
inductive Parts where
  | finite (negative : Bool) (value : Binary)
  | infinite (negative : Bool)
  | notANumber
  deriving Repr, DecidableEq

/-- The parts of a float, read off its bits. -/
def parts (x : Float) : Parts :=
  let bits := x.toBits.toNat
  let negative := decide (Nat.pow 2 63 ≤ bits)
  let field : Nat := bits / Nat.pow 2 52 % Nat.pow 2 11
  let fraction : Nat := bits % Nat.pow 2 52
  if field == 2047 then
    if fraction == 0 then .infinite negative else .notANumber
  else if field == 0 then .finite negative ⟨fraction, -1074⟩
  else .finite negative ⟨Nat.pow 2 52 + fraction, (field : Int) - 1075⟩

/-- Digits of a decimal: the value is `0.DIGITS * 10 ^ point`. -/
structure Decimal where
  digits : List Char
  point : Int
  deriving Repr, DecidableEq

/-- Numerator and denominator of `n * 10 ^ e`. -/
def scaled10 (n : Nat) (e : Int) : Nat × Nat :=
  if 0 ≤ e then (n * Nat.pow 10 e.toNat, 1) else (n, Nat.pow 10 (-e).toNat)

/-- The least `k` from a start on, at most `fuel` more, with `num / den < 10 ^ k`. -/
def pointFrom (num den : Nat) : Nat → Int → Int
  | 0, k => k
  | fuel + 1, k =>
    let (n, d) := scaled10 1 k
    if num * d < n * den then k else pointFrom num den fuel (k + 1)

/-- The interval of reals that round to a number, as numerators over a common
denominator: lower end, the number, upper end, the denominator. -/
def interval (v : Binary) : Nat × Nat × Nat × Nat :=
  let low := if v.mantissa == Nat.pow 2 52 && v.exponent != -1074 then 1 else 2
  let e := v.exponent - 2
  let (up, den) := if 0 ≤ e then (Nat.pow 2 e.toNat, 1) else (1, Nat.pow 2 (-e).toNat)
  ((4 * v.mantissa - low) * up, 4 * v.mantissa * up, (4 * v.mantissa + 2) * up, den)

/-- The digit string of at most `width` digits that lies in the interval and is
nearest to the number, tried from `count` digits on. -/
def shortestFrom (lo mid hi den : Nat) (closed : Bool) (point : Int) :
    Nat → Nat → Nat × Int
  | 0, count => (mid / den, point - count)
  | fuel + 1, count =>
    let grid := point - (count : Int)
    let (gn, gd) := scaled10 1 grid
    -- one grid step is gn / gd; the number is mid / den
    let below := mid * gd / (den * gn)
    let holds (c : Nat) : Bool :=
      let at10 := c * gn * den
      if closed then lo * gd ≤ at10 && at10 ≤ hi * gd else lo * gd < at10 && at10 < hi * gd
    let distance (c : Nat) : Nat :=
      let at10 := c * gn * den
      if at10 ≤ mid * gd then mid * gd - at10 else at10 - mid * gd
    match holds below, holds (below + 1) with
    | true, true =>
      if distance below < distance (below + 1) then (below, grid)
      else if distance (below + 1) < distance below then (below + 1, grid)
      else if below % 2 == 0 then (below, grid) else (below + 1, grid)
    | true, false => (below, grid)
    | false, true => (below + 1, grid)
    | false, false => shortestFrom lo mid hi den closed point fuel (count + 1)

def dropTrailingZeros (ds : List Char) : List Char :=
  (ds.reverse.dropWhile (· == '0')).reverse

/-- The decimal `n * 10 ^ grid` without zeros at its end. -/
def Decimal.ofGrid (n : Nat) (grid : Int) : Decimal :=
  let digits := Nat.toDigits 10 n
  ⟨dropTrailingZeros digits, grid + digits.length⟩

/-- The number with the fewest digits that reads back as a number, and its grid. -/
def shortestOnGrid (v : Binary) : Nat × Int :=
  let (lo, mid, hi, den) := interval v
  let point := pointFrom mid den 700 (-330)
  shortestFrom lo mid hi den (v.mantissa % 2 == 0) point 17 1

/-- The shortest decimal that reads back as the number; zero has the digit 0. -/
def shortest (v : Binary) : Decimal :=
  if v.mantissa == 0 then ⟨['0'], 1⟩
  else
    let (n, grid) := shortestOnGrid v
    .ofGrid n grid

end SourceAudit.Number
