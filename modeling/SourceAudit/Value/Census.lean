/-
Counting values: how often each occurs, in the order in which they first occurred.
-/
import SourceAudit.Value.Access
import SourceAudit.Value.Json.Writer
import SourceAudit.Value.Show

namespace SourceAudit

/-- How often values occur, in the order in which they first occurred. -/
abbrev Census := List (Value × Nat)

namespace Census

def more (v : Value) : Census → Census
  | [] => [(v, 1)]
  | (w, n) :: rest => if w.same v then (w, n + 1) :: rest else (w, n) :: more v rest

/-- One more occurrence of a value, which has to be one that a table can hold. -/
def add (t : Census) (v : Value) : Outcome Census :=
  if v.isKey then .ok (t.more v) else .error (.unhashable v.kind)

def count (t : Census) (v : Value) : Nat :=
  ((t.find? fun e => e.1.same v).map Prod.snd).getD 0

/-- The most frequent values first; of equals, the one that occurred first. -/
def byCount (t : Census) : Census :=
  t.mergeSort fun a b => b.2 ≤ a.2

/-- A census as a record, its values written as names. -/
def recordBy (name : Value → String) (t : Census) : Value :=
  .record (t.map fun (v, n) => (name v, Value.ofNat n))

def toValue (t : Census) : Value :=
  t.recordBy Value.shown

/-- The name of a value as a field of JSON text. -/
def jsonName : Value → String
  | .text s => s
  | v => Value.Json.compact v

end Census

end SourceAudit
