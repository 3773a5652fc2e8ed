/-
Moments in their written forms: a date of the calendar or of a week, any one
character, a time of day with or without colons, and the distance to the time of
Greenwich.
-/
import SourceAudit.Moment

namespace SourceAudit.Moment

/-- The number that so many digits write, and what follows. -/
def digits? : Nat → List Char → Option (Nat × List Char)
  | n, cs => go 0 n cs
where
  go (value : Nat) : Nat → List Char → Option (Nat × List Char)
    | 0, cs => some (value, cs)
    | n + 1, c :: cs => if c.isDigit then go (10 * value + (c.toNat - 48)) n cs else none
    | _ + 1, [] => none

-- =============================================================== dates

/-- How far into the week a day is; Monday is zero. -/
def weekday (day : Int) : Int := (day + 2) % 7

def hasLongYear (year : Nat) : Bool :=
  let first := weekday (dayNumber year 1 1)
  first == 3 || (first == 2 && isLeap year)

/-- The date of a day of a week; the week with the fourth of January is the first. -/
def dateOfWeek? (year week day : Nat) : Option (Nat × Nat × Nat) :=
  if year == 0 || week == 0 || 53 < week || (week == 53 && !hasLongYear year) || day == 0 ||
      7 < day then none
  else
    let fourth := dayNumber year 1 4
    some (dateOfDay (fourth - weekday fourth + 7 * ((week : Int) - 1) + ((day : Int) - 1)))

/-- The date a text writes: of the calendar or of a week, with or without dashes. -/
def date? (cs : List Char) : Option (Nat × Nat × Nat) := do
  let (year, rest) ← digits? 4 cs
  let dashed := rest.head? == some '-'
  let dash (cs : List Char) : Option (List Char) :=
    if !dashed then some cs
    else match cs with
      | '-' :: rest => some rest
      | _ => none
  match ← dash rest with
  | 'W' :: rest =>
    let (week, rest) ← digits? 2 rest
    if rest.isEmpty then dateOfWeek? year week 1
    else
      let (day, rest) ← digits? 1 (← dash rest)
      if rest.isEmpty then dateOfWeek? year week day else none
  | rest =>
    let (month, rest) ← digits? 2 rest
    let (day, rest) ← digits? 2 (← dash rest)
    if rest.isEmpty then some (year, month, day) else none

/-- How many characters of a text are its date. A week without a day and a week
with one are told apart by the digits that follow. -/
def dateLength? (cs : List Char) : Option Nat :=
  let isDigitAt (i : Nat) : Bool := (cs[i]?).any Char.isDigit
  if cs.length == 7 then some 7
  else if cs[4]? == some '-' then
    if cs[5]? == some 'W' then
      if cs[8]? == some '-' then
        if cs.length == 9 then none
        else if isDigitAt 10 then some 8
        else some 10
      else some 8
    else some 10
  else if cs[4]? == some 'W' then
    let digits := 7 + ((cs.drop 7).takeWhile Char.isDigit).length
    if digits < 9 then some digits
    else if digits % 2 == 0 then some 7
    else some 8
  else some 8

-- =============================================================== clock

/-- A time of day. -/
structure Clock where
  hour : Nat
  minute : Nat
  second : Nat
  micro : Nat

/-- The fraction of a second, which up to six digits make; more digits are passed
over. Also whether something follows. -/
def fraction? (size : Nat) (cs : List Char) : Option (Nat × Bool) := do
  let taken := min size 6
  let (value, rest) ← digits? taken cs
  return (value * Nat.pow 10 (6 - taken), !(rest.dropWhile Char.isDigit).isEmpty)

/-- The time of day in the first `size` characters of a text, and whether something
follows it. Whether colons part it is seen after the hour. -/
def clock? (size : Nat) (cs : List Char) : Option (Clock × Bool) :=
  go 3 false size cs []
where
  make (parts : List Nat) (micro : Nat) : Clock :=
    ⟨parts[0]?.getD 0, parts[1]?.getD 0, parts[2]?.getD 0, micro⟩
  finish (size : Nat) (cs : List Char) (parts : List Nat) : Option (Clock × Bool) := do
    let (micro, more) ← fraction? size cs
    return (make parts micro, more)
  go : Nat → Bool → Nat → List Char → List Nat → Option (Clock × Bool)
    | 0, _, size, cs, parts => finish size cs parts
    | n + 1, colons, size, cs, parts => do
      let (value, rest) ← digits? 2 cs
      let parts := parts ++ [value]
      let next := rest.head?
      let colons := if parts.length == 1 then next == some ':' else colons
      if size ≤ 3 then return (make parts 0, next.isSome)
      else if colons && next == some ':' then go n colons (size - 3) (rest.drop 1) parts
      else if next == some '.' || next == some ',' then finish (size - 3) (rest.drop 1) parts
      else if !colons then go n colons (size - 2) rest parts
      else none

/-- The written form of a distance to the time of Greenwich. -/
def offsetText (negative : Bool) (c : Clock) : Option String :=
  let seconds := 3600 * c.hour + 60 * c.minute + c.second
  if 86400 ≤ seconds then none
  else
    let sign := if negative && (seconds != 0 || c.micro != 0) then "-" else "+"
    let rest := if c.micro != 0 then
        ":" ++ digits 2 (seconds % 60) ++ "." ++ digits 6 c.micro
      else if seconds % 60 != 0 then ":" ++ digits 2 (seconds % 60)
      else ""
    some (sign ++ digits 2 (seconds / 3600) ++ ":" ++ digits 2 (seconds / 60 % 60) ++ rest)

/-- The time of day a text writes, and its distance to the time of Greenwich as
text. -/
def timed? (cs : List Char) : Option (Clock × String) := do
  let isZone (c : Char) : Bool := c == '+' || c == '-' || c == 'Z'
  let size := (cs.takeWhile fun c => !isZone c).length
  let (clock, more) ← clock? size cs
  match cs.drop size with
  | [] => if more then none else some (clock, "")
  | 'Z' :: rest => if rest.isEmpty then some (clock, "+00:00") else none
  | sign :: zone =>
    let (offset, more) ← clock? zone.length zone
    if more then none else return (clock, ← offsetText (sign == '-') offset)

def ofText? (s : String) : Option String := do
  let cs := s.toList
  if cs.length < 7 then none
  else
    let size ← dateLength? cs
    let (year, month, day) ← date? (cs.take size)
    let (clock, zone) ←
      if cs.length ≤ size then some (⟨0, 0, 0, 0⟩, "") else timed? (cs.drop (size + 1))
    let m : Moment := ⟨year, month, day, clock.hour, clock.minute, clock.second, clock.micro⟩
    if m.isValid then some (m.iso ++ zone) else none

end SourceAudit.Moment
