/-
Shapes that values have to fit, and how a value is made to fit: numbers are read
from text, switches from words, moments from text or from seconds. What does not
fit is listed with its place and the kind of problem. The rules and the names of the
problems are those of pydantic 1.9; from version 2 on they are others.
-/
import SourceAudit.Fault
import SourceAudit.Moment
import SourceAudit.Pattern.Reader
import SourceAudit.Text.Decimal
import SourceAudit.Value.Show

namespace SourceAudit.Schema

/-- A shape that values have to fit. -/
inductive Shape where
  | anything
  | text
  | whole (least most : Option Int)
  | real
  | switch
  | moment
  | choice (words : List String)
  | list (item : Shape)
  /-- Values by name. -/
  | table (value : Shape)
  /-- Values by any key. -/
  | pairs
  | optional (inner : Shape)
  /-- Named fields, each with its shape and the value it has if it is left open. -/
  | fields (entries : List (String × Shape × Option Value))

/-- Problems with their places. -/
abbrev Problems := List (List Place × String)

/-- A value that fits, or the problems with it. -/
abbrev Fitted (α : Type) := Except Problems α

/-- A problem with the value itself. -/
def problem {α : Type} (kind : String) : Fitted α :=
  .error [([], kind)]

/-- Problems seen from one place further out. -/
def within {α : Type} (place : Place) (r : Fitted α) : Fitted α :=
  r.mapError fun ps => ps.map fun (loc, kind) => (place :: loc, kind)

/-- Two fittings together; the problems of both are kept. -/
def both {α β γ : Type} (f : α → β → γ) (a : Fitted α) (b : Fitted β) : Fitted γ :=
  match a, b with
  | .ok x, .ok y => .ok (f x y)
  | .ok _, .error qs => .error qs
  | .error ps, .ok _ => .error ps
  | .error ps, .error qs => .error (ps ++ qs)

-- ============================================================= scalars

/-- A text; numbers and switches are written out. -/
def fitText (v : Value) : Fitted Value :=
  match v with
  | .text _ => .ok v
  | .int _ | .real _ | .bool _ => .ok (.text v.shown)
  | _ => problem "type_error.str"

def wholeOf? (v : Value) : Option Int :=
  match v with
  | .real x => Number.whole? x
  | .text s => (Text.whole s).toOption
  | v => v.asWhole?

/-- A whole number within bounds. -/
def fitWhole (least most : Option Int) (v : Value) : Fitted Value :=
  match wholeOf? v with
  | none => problem "type_error.integer"
  | some n =>
    if least.any fun k => n < k then problem "value_error.number.not_ge"
    else if most.any fun k => k < n then problem "value_error.number.not_le"
    else .ok (.int n)

def fitReal (v : Value) : Fitted Value :=
  match v with
  | .real _ => .ok v
  | .text s =>
    match Text.decimal? s with
    | some x => .ok (.real x)
    | none => problem "type_error.float"
  | v =>
    match v.asWhole? with
    | some n => .ok (.real (Number.ofDecimal (decide (n < 0)) n.natAbs 0))
    | none => problem "type_error.float"

/-- A switch; the usual words for on and off will do, and the numbers one and zero. -/
def fitSwitch (v : Value) : Fitted Value :=
  let isOneOf (words : List String) (n : Int) : Bool :=
    match v with
    | .text s => words.contains (Text.lower s)
    | v => v.same (.int n)
  match v with
  | .bool _ => .ok v
  | _ =>
    if isOneOf ["1", "on", "t", "true", "y", "yes"] 1 then .ok (.bool true)
    else if isOneOf ["0", "off", "f", "false", "n", "no"] 0 then .ok (.bool false)
    else problem "type_error.bool"

def fitChoice (words : List String) (v : Value) : Fitted Value :=
  if v.asText?.any words.contains then .ok v else problem "type_error.enum"

-- ============================================================= moments

def momentForm : Pattern :=
  .of (r"^(\d{4})-(\d{1,2})-(\d{1,2})[T ](\d{1,2}):(\d{1,2})" ++
    r"(?::(\d{1,2})(?:\.(\d{1,6})\d{0,6})?)?(Z|[+-]\d{2}(?::?\d{2})?)?$")

/-- A time zone: the offset as it is written in full. -/
def zoneText (z : String) : Option String :=
  if z == "Z" then some "+00:00"
  else
    let digits := (z.toList.filter Char.isDigit)
    let hours := Text.digitsNumber (digits.take 2)
    let minutes := Text.digitsNumber (digits.drop 2)
    let total := 60 * hours + minutes
    if 59 < minutes || 1440 ≤ total then none
    else
      let sign := if z.startsWith "-" && total != 0 then "-" else "+"
      some (sign ++ Moment.digits 2 hours ++ ":" ++ Moment.digits 2 minutes)

def momentText (s : String) : Fitted Value :=
  match momentForm.search s with
  | none => problem "value_error.datetime"
  | some found =>
    let part (i : Nat) : Nat :=
      (((found.group? i).bind Text.numeral?).map Int.toNat).getD 0
    let micro := match found.group? 7 with
      | some ds => ((Text.numeral? (ds ++ String.ofList (List.replicate (6 - ds.length) '0'))).map
          Int.toNat).getD 0
      | none => 0
    let m : Moment := ⟨part 1, part 2, part 3, part 4, part 5, part 6, micro⟩
    match found.group? 8 with
    | none => if m.isValid then .ok (.date m.iso) else problem "value_error.datetime"
    | some z =>
      match zoneText z with
      | some offset =>
        if m.isValid then .ok (.date (m.iso ++ offset)) else problem "value_error.datetime"
      | none => problem "value_error.datetime"

/-- Numbers beyond this size count in thousandths. -/
def thousandthsFrom : Float := 20000000000

/-- A number of seconds, brought below the size at which thousandths are meant. -/
def secondsOf : Nat → Float → Float
  | 0, x => x
  | fuel + 1, x => if thousandthsFrom < x.abs then secondsOf fuel (x / 1000) else x

/-- Microseconds of a number of seconds, a half going to the even neighbour. -/
def microsOf (x : Float) : Option Int := do
  let seconds ← Number.whole? x
  let rest := (x - Float.ofInt seconds) * 1000000
  let micros ← Number.whole? rest
  let left := rest - Float.ofInt micros
  let total := seconds * 1000000 + micros
  return if 0.5 < left.abs || (left.abs == 0.5 && total % 2 != 0) then
      (if left < 0 then total - 1 else total + 1)
    else total

def momentOfSeconds (x : Float) : Fitted Value :=
  if 3e20 < x then .ok (.date "9999-12-31T23:59:59.999999")
  else if x < -3e20 then .ok (.date "0001-01-01T00:00:00")
  else
    match microsOf (secondsOf 10 x) with
    | some n => .ok (.date ((Moment.ofMicroseconds n).iso ++ "+00:00"))
    | none => problem "value_error"

/-- A moment: in its written form, or in seconds. -/
def fitMoment (v : Value) : Fitted Value :=
  match v with
  | .date _ => .ok v
  | .real x => momentOfSeconds x
  | .text s =>
    match Text.decimal? s with
    | some x => momentOfSeconds x
    | none => momentText s
  | v =>
    match v.asWhole? with
    | some n => momentOfSeconds (Number.ofDecimal (decide (n < 0)) n.natAbs 0)
    | none => problem "type_error"

-- ============================================================== tables

/-- The two parts of a pair. -/
def pair? (v : Value) : Option (Value × Value) :=
  match v with
  | .list [a, b] => some (a, b)
  | .text s =>
    match s.toList with
    | [a, b] => some (.text a.toString, .text b.toString)
    | _ => none
  | .record [(a, _), (b, _)] => some (.text a, .text b)
  | _ => none

/-- The entries of a record or of a list of pairs. -/
def entriesOf (v : Value) : Option (List (Value × Value)) :=
  match v with
  | .record fs => some (fs.map fun (k, x) => (.text k, x))
  | .list items => items.mapM pair?
  | .text s => if s.isEmpty then some [] else none
  | _ => none

def fitKey (key : Value) : Fitted String :=
  match key with
  | .null => .error [([.field "__key__"], "type_error.none.not_allowed")]
  | key =>
    match within (.field "__key__") (fitText key) with
    | .ok (.text s) => .ok s
    | .ok _ => .ok ""
    | .error ps => .error ps

-- ============================================================= fitting

def fitItems (fit : Value → Fitted Value) (start : Nat) : List Value → Fitted (List Value)
  | [] => .ok []
  | v :: rest =>
    both (· :: ·) (within (.index start) (fit v)) (fitItems fit (start + 1) rest)

def fitEntries (fit : Value → Fitted Value) :
    List (Value × Value) → Fitted (List (String × Value))
  | [] => .ok []
  | (key, v) :: rest =>
    let place := Place.field key.shown
    both (· :: ·) (both Prod.mk (fitKey key) (within place (fit v))) (fitEntries fit rest)

mutual

def fit : Shape → Value → Fitted Value
  | .anything, v => .ok v
  | .optional _, .null => .ok .null
  | .optional inner, v => fit inner v
  | shape, v =>
    if v.same .null then problem "type_error.none.not_allowed"
    else match shape with
      | .text => fitText v
      | .whole least most => fitWhole least most v
      | .real => fitReal v
      | .switch => fitSwitch v
      | .moment => fitMoment v
      | .choice words => fitChoice words v
      | .list item =>
        match v with
        | .list items => Value.list <$> fitItems (fit item) 0 items
        | _ => problem "type_error.list"
      | .table value =>
        match entriesOf v with
        | some es => (fun fs => Value.record (Value.putAll [] fs)) <$> fitEntries (fit value) es
        | none => problem "type_error.dict"
      | .pairs =>
        match entriesOf v with
        | some es => .ok (.record (Value.putAll [] (es.map fun (k, x) => (k.shown, x))))
        | none => problem "type_error.dict"
      | .fields entries =>
        match entriesOf v with
        | some es =>
          Value.record <$> fitFields entries (es.map fun (k, x) => (k.shown, x))
        | none => problem "type_error.dict"
      | .anything | .optional _ => .ok v

/-- Makes entries fit named fields; those without a name there are left out. -/
def fitFields : List (String × Shape × Option Value) → List (String × Value) →
    Fitted (List (String × Value))
  | [], _ => .ok []
  | (name, shape, usual) :: rest, given =>
    let one : Fitted Value :=
      match Value.lookup name given, usual with
      | some v, _ => within (.field name) (fit shape v)
      | none, some v => .ok v
      | none, none => within (.field name) (problem "value_error.missing")
    both (fun v done => (name, v) :: done) one (fitFields rest given)

end

/-- Makes entries fit a shape, or refuses them with all their problems. -/
def make (shape : Shape) (entries : List (String × Value)) : Outcome Value :=
  match fit shape (.record entries) with
  | .ok v => .ok v
  | .error problems => .error (.invalid problems)

end SourceAudit.Schema
