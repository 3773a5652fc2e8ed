/-
Reaching into values whose shape is not known beforehand. What is asked of a
value of the wrong kind is refused with the kind it has.
-/
import SourceAudit.Fault
import SourceAudit.Text.Search

namespace SourceAudit.Value

/-- The items to go through: those of a list, the characters of a text, the field
names of a record. -/
def each : Value → Outcome (List Value)
  | .list items => .ok items
  | .text s => .ok (s.toList.map fun c => .text c.toString)
  | .record fields => .ok (fields.map fun f => .text f.1)
  | v => .error (.notIterable v.kind)

/-- Whether a text is an item of a list, a part of a text or a field of a record. -/
def holds (v : Value) (s : String) : Outcome Bool :=
  match v with
  | .list items => .ok ((Value.text s).memberOf items)
  | .text t => .ok (Text.contains s t)
  | .record fields => .ok (lookup s fields).isSome
  | v => .error (.notContainer v.kind)

def pick (v : Value) (name : String) : Outcome Value :=
  match v with
  | .record fields =>
    match lookup name fields with
    | some x => .ok x
    | none => .error (.unknownKey name)
  | .list _ => .error (.badIndex "list" "str")
  | .text _ => .error (.badTextIndex "str")
  | v => .error (.notSubscriptable v.kind)

/-- A field of a record, or a stand-in if the record does not have it. -/
def ask (v : Value) (name : String) (fallback : Value) : Outcome Value :=
  match v with
  | .record fields => .ok ((lookup name fields).getD fallback)
  | v => .error (.noMember v.kind "get")

/-- The first items of a list or characters of a text. -/
def start (v : Value) (n : Nat) : Outcome Value :=
  match v with
  | .list items => .ok (.list (items.take n))
  | .text s => .ok (.text (Text.take n s))
  | .record _ => .error (.unhashable "slice")
  | v => .error (.notSubscriptable v.kind)

def isKey : Value → Bool
  | .list _ | .record _ => false
  | _ => true

end SourceAudit.Value
