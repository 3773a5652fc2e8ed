/-
What a YAML scalar without quotes stands for: nothing, a truth value, a number, a
date, one of two marks of the format, or itself. The form decides.
-/
import SourceAudit.Fault
import SourceAudit.Moment
import SourceAudit.Pattern.Reader
import SourceAudit.Text.Decimal
import SourceAudit.Text.Search

namespace SourceAudit.Value.Yaml

/-- What a scalar stands for. -/
inductive ScalarKind where
  | nothing
  | truth
  | whole
  | real
  | date
  | merge
  /-- The mark of a default value. -/
  | equals
  | words
  deriving DecidableEq

/-- The forms by which scalars are known: the characters they can start with, and
the whole form. -/
def scalarForms : List (ScalarKind × String × Pattern) :=
  [(.truth, "yYnNtTfFoO", Pattern.of
      r"^(?:yes|Yes|YES|no|No|NO|true|True|TRUE|false|False|FALSE|on|On|ON|off|Off|OFF)$"),
   (.real, "-+0123456789.", Pattern.of
      (r"^(?:[-+]?(?:[0-9][0-9_]*)\.[0-9_]*(?:[eE][-+][0-9]+)?" ++
       r"|\.[0-9][0-9_]*(?:[eE][-+][0-9]+)?" ++
       r"|[-+]?[0-9][0-9_]*(?::[0-5]?[0-9])+\.[0-9_]*" ++
       r"|[-+]?\.(?:inf|Inf|INF)|\.(?:nan|NaN|NAN))$")),
   (.whole, "-+0123456789", Pattern.of
      (r"^(?:[-+]?0b[0-1_]+|[-+]?0[0-7_]+|[-+]?(?:0|[1-9][0-9_]*)" ++
       r"|[-+]?0x[0-9a-fA-F_]+|[-+]?[1-9][0-9_]*(?::[0-5]?[0-9])+)$")),
   (.merge, "<", Pattern.of r"^(?:<<)$"),
   (.nothing, "~nN", Pattern.of r"^(?:~|null|Null|NULL)$"),
   (.date, "0123456789", Pattern.of
      (r"^(?:[0-9][0-9][0-9][0-9]-[0-9][0-9]-[0-9][0-9]" ++
       r"|[0-9][0-9][0-9][0-9]-[0-9][0-9]?-[0-9][0-9]?(?:[Tt]|[ \t]+)[0-9][0-9]?" ++
       r":[0-9][0-9]:[0-9][0-9](?:\.[0-9]*)?" ++
       r"(?:[ \t]*(?:Z|[-+][0-9][0-9]?(?::[0-9][0-9])?))?)$")),
   (.equals, "=", Pattern.of r"^(?:=)$")]

/-- What a scalar without quotes and without a tag stands for. -/
def kindOf (content : String) : ScalarKind :=
  match content.toList with
  | [] => .nothing
  | c :: _ =>
    match scalarForms.find? fun (_, starts, form) =>
        starts.toList.contains c && form.occursIn content with
    | some (found, _, _) => found
    | none => .words

-- ============================================================= numbers

def signed (content : String) : Bool × List Char :=
  match content.toList with
  | '-' :: rest => (true, rest)
  | '+' :: rest => (false, rest)
  | cs => (false, cs)

def inBase (base : Nat) (digits : List Char) : Outcome Nat :=
  let value? (c : Char) : Option Nat :=
    let d := if c.isDigit then c.toNat - 0x30
      else if 'a' ≤ c && c ≤ 'f' then c.toNat - 0x57
      else if 'A' ≤ c && c ≤ 'F' then c.toNat - 0x37
      else base
    if d < base then some d else none
  match if digits.isEmpty then none else digits.foldlM (fun n c => (value? c).map (base * n + ·)) 0 with
  | some n => .ok n
  | none => .error (.badData ("invalid literal for int() with base " ++ toString base ++ ": " ++
      Text.quoted (String.ofList digits)))

/-- The whole number a scalar writes: binary after 0b, hexadecimal after 0x,
octal after a zero, in base sixty with colons, decimal otherwise. -/
def wholeOf (content : String) : Outcome Int := do
  let bare := Text.replace "_" "" content
  if bare.isEmpty then .error (.outOfRange "string")
  let (negative, digits) := signed bare
  let size : Int ←
    match digits with
    | ['0'] => pure 0
    | '0' :: 'b' :: rest => Int.ofNat <$> inBase 2 rest
    | '0' :: 'x' :: rest => Int.ofNat <$> inBase 16 rest
    | '0' :: rest => Int.ofNat <$> inBase 8 ('0' :: rest)
    | [] => .error (.outOfRange "string")
    | _ =>
      (Text.splitOnChar ':' (String.ofList digits)).foldlM
        (fun n part => do return 60 * n + (← Text.whole part)) 0
  return if negative then -size else size

def decimalReal (digits : String) : Outcome Float :=
  match Text.decimal? digits with
  | some x => .ok x
  | none => .error (.badData ("could not convert string to float: " ++ Text.quoted digits))

/-- The real number a scalar writes; with colons it is in base sixty, summed from
the last part on. -/
def realOf (content : String) : Outcome Float := do
  let bare := Text.lower (Text.replace "_" "" content)
  if bare.isEmpty then .error (.outOfRange "string")
  let (negative, rest) := signed bare
  let digits := String.ofList rest
  let size : Float ←
    if digits == ".inf" then pure (1 / 0)
    else if digits == ".nan" then pure (0 / 0)
    else if rest.contains ':' then do
      let parts ← (Text.splitOnChar ':' digits).mapM decimalReal
      let (sum, _) := parts.reverse.foldl
        (fun (acc : Float × Float) part => (acc.1 + part * acc.2, acc.2 * 60)) (0, 1)
      pure sum
    else decimalReal digits
  return if negative then -1 * size else size

-- =============================================================== dates

def digitGroups (cs : List Char) : List String :=
  ((Text.splitOnChar ' ' (String.ofList (cs.map fun c => if c.isDigit then c else ' '))).filter
    fun g => !g.isEmpty)

/-- The time zone at the end of a point in time: minutes from the prime one. -/
def zone (cs : List Char) : Option String :=
  let tail := (cs.reverse.takeWhile fun c => !(c == '-' || c == '+' || c == 'Z')).reverse
  let mark := (cs.reverse.dropWhile fun c => !(c == '-' || c == '+' || c == 'Z')).head?
  match mark with
  | some 'Z' => some "+00:00"
  | some m =>
    let groups := digitGroups tail
    let hours := ((groups[0]?).bind String.toNat?).getD 0
    let minutes := ((groups[1]?).bind String.toNat?).getD 0
    let total := 60 * hours + minutes
    let sign := if m == '-' && total != 0 then "-" else "+"
    some (sign ++ Moment.digits 2 (total / 60) ++ ":" ++ Moment.digits 2 (total % 60))
  | none => none

/-- The part of a second after its point, as microseconds. -/
def microseconds (cs : List Char) : Nat :=
  match cs.dropWhile (· != '.') with
  | _ :: rest =>
    let digits := (rest.takeWhile Char.isDigit).take 6
    Text.digitsNumber (digits ++ List.replicate (6 - digits.length) '0')
  | [] => 0

def dateOf (content : String) : Outcome Value := do
  let cs := content.toList
  let numbers := (digitGroups cs).map fun g => g.toNat?.getD 0
  let part (i : Nat) : Nat := (numbers[i]?).getD 0
  let (year, month, day) := (part 0, part 1, part 2)
  if year == 0 then .error (.badData "year 0 is out of range")
  if month == 0 || 12 < month then .error (.badData "month must be in 1..12")
  if day == 0 || Moment.daysOf year month < day then .error (.badData "day is out of range for month")
  let day := Moment.digits 4 year ++ "-" ++ Moment.digits 2 month ++ "-" ++ Moment.digits 2 day
  if !cs.contains ':' then return .date day
  let (hour, minute, second) := (part 3, part 4, part 5)
  if 23 < hour then .error (.badData "hour must be in 0..23")
  if 59 < minute then .error (.badData "minute must be in 0..59")
  if 59 < second then .error (.badData "second must be in 0..59")
  let micro := microseconds cs
  return .date (day ++ "T" ++ Moment.digits 2 hour ++ ":" ++ Moment.digits 2 minute ++ ":" ++ Moment.digits 2 second ++
    (if micro == 0 then "" else "." ++ Moment.digits 6 micro) ++ (zone (cs.dropWhile (· != ':'))).getD "")

-- ============================================================== values

def isTrueWord (content : String) : Bool :=
  ["yes", "true", "on"].contains (Text.lower content)

/-- The value of a scalar of a known kind. A mark of the format has none. -/
def scalarValue (kind : ScalarKind) (content : String) : Outcome Value :=
  match kind with
  | .nothing => .ok .null
  | .truth => .ok (.bool (isTrueWord content))
  | .whole => Value.int <$> wholeOf content
  | .real => Value.real <$> realOf content
  | .date => dateOf content
  | .merge | .equals => .error .badYaml
  | .words => .ok (.text content)

end SourceAudit.Value.Yaml
