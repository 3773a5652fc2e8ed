/-
What becomes of the remarks of a rule.

A rule hands every remark over as a form, and what it hands over always has a
column in it. If findings have columns, the form is accepted whatever the remark
(`makeFinding_entriesOf`), so a check reports all remarks of its rule
(`check_eq_map`). If they have none, the form is refused whatever the remark
(`makeFinding_columnless`): the check ends at the first one, before anything has
been reported (`attempt_columnless`).
-/
import SourceAudit.Rule.Basic

namespace SourceAudit

theorem Severity.ofValue_name (kind : String) (level : Severity) :
    ofValue kind (.text level.name) = .ok level := by
  cases level <;> rfl

namespace Rule

variable (rule : Rule) (path : String)

/-- A remark of a rule as a finding about a file. -/
def finding (rule : Rule) (path : String) (remark : Remark) : Finding where
  rule := .text rule.id
  severity := rule.severity
  category := .text rule.category
  message := .text remark.note.message
  file := .text path
  line := Value.ofNat remark.line
  column := .null
  snippet := .text remark.snippet
  remediation := .text remark.note.remediation
  confidence := .real rule.confidence
  metadata := .record remark.note.metadata
  standards := none
  frameworks := none

-- =============================================================== forms

/-- A form that names no column refuses what any rule hands over, whatever is in
it. -/
theorem check_handedOver_columnless (entries : List (String × Value)) :
    (Finding.form false).check (rule.handedOver entries)
      = .error (.unknownEntry "Issue.__init__" "column_number") := rfl

/-- Without columns no finding can be made by hand. -/
theorem makeFinding_columnless {entries : List (String × Value)}
    (h : findingForm.check entries = .ok ()) :
    rule.makeFinding false entries
      = .error (.unknownEntry "Issue.__init__" "column_number") := by
  have hlevel : Value.lookup "severity" (rule.handedOver entries)
      = some (.text rule.severity.name) := rfl
  unfold makeFinding Finding.ofFields
  rw [h, hlevel]
  simp only [Severity.ofValue_name, check_handedOver_columnless, bind,
    Except.bind]

/-- What a rule hands over for a remark: the metadata is a record, and an empty
one is replaced by an empty one. -/
theorem handedOver_entriesOf (remark : Remark) :
    rule.handedOver (rule.entriesOf path remark)
      = [("rule_id", .text rule.id), ("severity", .text rule.severity.name),
         ("message", .text remark.note.message), ("file_path", .text path),
         ("line_number", Value.ofNat remark.line), ("column_number", .null),
         ("code_snippet", .text remark.snippet),
         ("remediation", .text remark.note.remediation),
         ("category", .text rule.category),
         ("confidence", .real rule.confidence),
         ("metadata", .record remark.note.metadata)] := by
  have hmetadata : (if (Value.record remark.note.metadata).isTruthy
      then Value.record remark.note.metadata else .record [])
        = .record remark.note.metadata := by
    cases remark.note.metadata <;> rfl
  rw [← hmetadata]
  rfl

/-- With columns every remark becomes a finding. -/
theorem makeFinding_entriesOf (remark : Remark) :
    rule.makeFinding true (rule.entriesOf path remark)
      = .ok (rule.finding path remark) := by
  have hform : findingForm.check (rule.entriesOf path remark) = .ok () := rfl
  unfold makeFinding Finding.ofFields
  rw [hform, handedOver_entriesOf]
  show (Severity.ofValue "Severity" (.text rule.severity.name)).bind _ = _
  rw [Severity.ofValue_name]
  rfl

-- ============================================================ attempts

section Attempts

variable {make : Remark → Outcome Finding}

/-- If every remark becomes a finding, all of them are reported. -/
theorem madeOf_of_ok {become : Remark → Finding}
    (h : ∀ remark, make remark = .ok (become remark)) (remarks : List Remark) :
    madeOf make remarks = (remarks.map become, none) := by
  induction remarks with
  | nil => rfl
  | cons remark rest ih => simp only [madeOf, h, ih, List.map_cons]

/-- If no remark does, none is reported, and the first one tells why. -/
theorem madeOf_of_error {fault : Fault}
    (h : ∀ remark, make remark = .error fault) (remarks : List Remark) :
    madeOf make remarks
      = ([], if remarks.isEmpty then none else some fault) := by
  cases remarks with
  | nil => rfl
  | cons remark rest =>
      simp only [madeOf, h, List.isEmpty_cons, Bool.false_eq_true, if_false]

end Attempts

/-- With columns a check reports all remarks of its rule. -/
theorem check_eq_map (source : Source) :
    rule.check true path (some source)
      = (rule.inspection.remarks source).map (rule.finding path) := by
  show (madeOf _ _).1 = _
  rw [madeOf_of_ok fun remark => rule.makeFinding_entriesOf path remark]

/-- A rule that looks at each line on its own reports its remarks on the lines
of a file. -/
theorem check_of_lines {rule : Rule} {reading : Reading}
    {look : String → List Note}
    (hrule : rule.inspection = .perLine reading look) {source : Source}
    {lines : List String} (hlines : reading.lines source.text = lines)
    (path : String) :
    rule.check true path (some source)
      = (remarksFrom look 1 lines).map (rule.finding path) := by
  rw [check_eq_map, hrule, Inspection.remarks, hlines]

/-- Without columns an attempt to report remarks reports nothing. It ends at the
first remark, if there is one. -/
theorem attempt_columnless (source : Source) :
    rule.attempt false path source
      = ([], if (rule.inspection.remarks source).isEmpty then none
          else some (.unknownEntry "Issue.__init__" "column_number")) :=
  madeOf_of_error (fun _ => rule.makeFinding_columnless rfl) _

theorem check_columnless (source : Option Source) : rule.check false path source
    = [] := by
  cases source with
  | none => rfl
  | some s => exact congrArg Prod.fst (rule.attempt_columnless path s)

end Rule

end SourceAudit
