/-
Moments: a date and a time of day to the microsecond, and their written forms.
-/
namespace SourceAudit

/-- A date and a time of day. -/
structure Moment where
  year : Nat
  month : Nat
  day : Nat
  hour : Nat
  minute : Nat
  second : Nat
  micro : Nat

namespace Moment

def isLeap (year : Nat) : Bool :=
  year % 4 == 0 && (year % 100 != 0 || year % 400 == 0)

def daysOf (year month : Nat) : Nat :=
  if month == 2 then if isLeap year then 29 else 28
  else if [4, 6, 9, 11].contains month then 30
  else 31

def isValid (m : Moment) : Bool :=
  1 ≤ m.year && m.year ≤ 9999 && 1 ≤ m.month && m.month ≤ 12 && 1 ≤ m.day &&
    m.day ≤ daysOf m.year m.month && m.hour ≤ 23 && m.minute ≤ 59 && m.second ≤ 59 &&
    m.micro ≤ 999999

def digits (width n : Nat) : String :=
  let ds := Nat.toDigits 10 n
  String.ofList (List.replicate (width - ds.length) '0' ++ ds)

def dateText (m : Moment) : String :=
  digits 4 m.year ++ "-" ++ digits 2 m.month ++ "-" ++ digits 2 m.day

/-- The moment to the minute, as in the name of a scan. -/
def minuteText (m : Moment) : String :=
  m.dateText ++ " " ++ digits 2 m.hour ++ ":" ++ digits 2 m.minute

/-- The moment in full; whole seconds have no point. -/
def iso (m : Moment) : String :=
  m.dateText ++ "T" ++ digits 2 m.hour ++ ":" ++ digits 2 m.minute ++ ":" ++ digits 2 m.second ++
    (if m.micro == 0 then "" else "." ++ digits 6 m.micro)

-- =========================================== counting from an epoch

/-- Days from the first of March of the year zero to a date. -/
def dayNumber (year month day : Nat) : Int :=
  let y : Int := if month ≤ 2 then (year : Int) - 1 else year
  let m : Nat := if month ≤ 2 then month + 9 else month - 3
  365 * y + y / 4 - y / 100 + y / 400 + (153 * m + 2) / 5 + (day : Int) - 1

/-- The date so many days after the first of March of the year zero. -/
def dateOfDay (n : Int) : Nat × Nat × Nat :=
  let era := n / 146097
  let inEra := (n % 146097).toNat
  let year := (inEra - inEra / 1460 + inEra / 36524 - inEra / 146096) / 365
  let inYear := inEra - (365 * year + year / 4 - year / 100)
  let m := (5 * inYear + 2) / 153
  let day := inYear - (153 * m + 2) / 5 + 1
  let month := if m < 10 then m + 3 else m - 9
  let y := era * 400 + year + (if month ≤ 2 then 1 else 0)
  (y.toNat, month, day)

def ofMicroseconds (n : Int) : Moment :=
  let perDay : Int := 86400 * 1000000
  let (year, month, day) := dateOfDay (n / perDay + dayNumber 1970 1 1)
  let rest := (n % perDay).toNat
  let seconds := rest / 1000000
  ⟨year, month, day, seconds / 3600, seconds / 60 % 60, seconds % 60, rest % 1000000⟩

end Moment

end SourceAudit
