/-
Fitting values into shapes: values that are already of the kind a shape asks for
fit as they are, and a message fits if its entries do.

Each equation covers a shape together with the kind of value it is made for,
which is what the service's own messages are built from.
-/
import SourceAudit.Schema.Message

namespace SourceAudit.Schema

/-- What fits fits wherever it stands. -/
theorem within_ok {α : Type} (place : Place) (a : α) :
    within place (.ok a) = .ok a := rfl

/-- A text fits as it is. -/
theorem fit_text (s : String) : fit .text (.text s) = .ok (.text s) := rfl

/-- A moment fits as it is. -/
theorem fit_moment (iso : String) :
    fit .moment (.date iso) = .ok (.date iso) := rfl

/-- A moment that may be left open fits as it is. -/
theorem fit_optional_moment (iso : Option String) :
    fit (.optional .moment) (Value.ofOption (iso.map .date))
      = .ok (Value.ofOption (iso.map .date)) := by
  cases iso <;> rfl

/-- A whole number within its bounds fits as it is. -/
theorem fit_whole {least most n : Int} (hleast : least ≤ n) (hmost : n ≤ most) :
    fit (.whole (some least) (some most)) (.int n) = .ok (.int n) := by
  show (if (some least).any fun k => decide (n < k) then _
    else if (some most).any fun k => decide (k < n) then _ else _) = _
  rw [if_neg, if_neg]
  · rw [Option.any_some, decide_eq_true_eq]
    omega
  · rw [Option.any_some, decide_eq_true_eq]
    omega

/-- A record fits named fields if its entries do. -/
theorem fit_fields (shapes : List (String × Shape × Option Value))
    (entries : List (String × Value)) :
    fit (.fields shapes)
      (.record entries) = Value.record <$> fitFields shapes entries := by
  have hkeys : (entries.map fun e => (Value.text e.1, e.2)).map (fun e =>
    (e.1.shown, e.2))
      = entries := by
    rw [List.map_map]
    exact List.map_id'' (fun _ => rfl) entries
  show Value.record <$> fitFields shapes
    ((entries.map fun e => (Value.text e.1, e.2)).map fun e =>
      (e.1.shown, e.2)) = _
  rw [hkeys]

/-- Only the entries named by fields matter. -/
theorem fitFields_congr {shapes : List (String × Shape × Option Value)}
    {given other : List (String × Value)}
    (h : ∀ e ∈ shapes, Value.lookup e.1 given = Value.lookup e.1 other) :
    fitFields shapes given = fitFields shapes other := by
  induction shapes with
  | nil => rfl
  | cons e rest ih =>
      obtain ⟨name, shape, usual⟩ := e
      have hname : Value.lookup name given = Value.lookup name other :=
        h _ List.mem_cons_self
      unfold fitFields
      rw [hname, ih fun x hx => h x (List.mem_cons_of_mem _ hx)]

/-- The entries of the message about how far a scan is. -/
def statusEntries (id status : String) (progress : Int) (start : String)
    (finish : Option String) (message : String) : List (String × Value) :=
  [("scan_id", .text id), ("status", .text status), ("progress", .int progress),
    ("start_time", .date start),
    ("end_time", Value.ofOption (finish.map .date)), ("message", .text message)]

/-- The message about how far a scan is can be made whenever the progress is a
percentage, and it says what it is given. -/
theorem make_scanStatus (id status : String) {progress : Int}
    (hleast : 0 ≤ progress) (hmost : progress ≤ 100) (start : String)
    (finish : Option String) (message : String) :
    make scanStatus (statusEntries id status progress start finish message)
      = .ok
        (.record (statusEntries id status progress start finish message)) := by
  unfold make scanStatus statusEntries
  rw [fit_fields]
  simp only [fitFields, needed, maybe, usually, Value.lookup, String.reduceBEq,
    Bool.false_eq_true, if_true, if_false, fit_text, fit_moment,
    fit_optional_moment, fit_whole hleast hmost, within_ok, both]
  rfl

end SourceAudit.Schema
