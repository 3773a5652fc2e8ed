/-
Every remark of a catalogued rule can be mapped to standards.

The further data of a note name a weakness and a framework by texts, or not at
all (`Note.Keyed`). That is a fact about the few records the rules attach to
their notes, so it is read off each rule once (`keyed_of_mem_all`), whatever
file the rule looks at. A finding that comes of such a note is one whose
standards can be looked up (`mappable_of_mem_check`).
-/
import SourceAudit.Proofs.Rule.Reporting
import SourceAudit.Proofs.Standard.Compliance
import SourceAudit.Rule.Catalogue

namespace SourceAudit

/-- A note that names a weakness and a framework by what can be a key of a
table, if it names them at all. -/
structure Note.Keyed (n : Note) : Prop where
  weakness : (Value.ofOption (Value.lookup "cwe" n.metadata)).isKey = true
  framework : (Value.ofOption (Value.lookup "framework" n.metadata)).isKey
    = true

/-- An inspection all of whose notes are such, whatever the file. -/
def Inspection.Keyed (i : Inspection) : Prop :=
  ∀ source, ∀ r ∈ i.remarks source, r.note.Keyed

-- ========================================================= inspections

/-- A remark on numbered lines comes of a look at one of them. -/
theorem note_of_mem_remarksFrom {look : String → List Note} {number : Nat}
    {lines : List String} {r : Remark} (h : r ∈ remarksFrom look number lines) :
    ∃ line ∈ lines, r.note ∈ look line := by
  induction lines generalizing number with
  | nil => exact absurd h List.not_mem_nil
  | cons line rest ih =>
      rw [remarksFrom] at h
      rcases List.mem_append.1 h with hline | hrest
      · obtain ⟨note, hnote, rfl⟩ := List.mem_map.1 hline
        exact ⟨line, List.mem_cons_self, hnote⟩
      · obtain ⟨other, hother, hnote⟩ := ih hrest
        exact ⟨other, List.mem_cons_of_mem line hother, hnote⟩

/-- Rules that look at each line are as good as their notes on a line. -/
theorem keyed_perLine {reading : Reading} {look : String → List Note}
    (h : ∀ line, ∀ n ∈ look line, n.Keyed) :
    (Inspection.perLine reading look).Keyed := by
  intro source r hr
  obtain ⟨line, -, hnote⟩ := note_of_mem_remarksFrom hr
  exact h line r.note hnote

/-- Rules that look for patterns are as good as the notes that go with them. -/
theorem keyed_notesOf {α : Type} {reading : Reading} {entries : List α}
    {check : α → LineCheck} (h : ∀ e, (check e).note.Keyed) :
    (Inspection.perLine reading (notesOf (entries.map check))).Keyed := by
  refine keyed_perLine fun line n hn => ?_
  obtain ⟨c, hc, rfl⟩ := List.mem_map.1 hn
  obtain ⟨e, -, rfl⟩ := List.mem_map.1 (List.mem_filter.1 hc).1
  exact h e

namespace Rule

-- ========================================================= whole files

/-- A function that is too long is remarked on by its name and length. -/
theorem keyed_of_remark? {limit : Int} {f : OpenFunction} {last : Nat}
    {r : Remark} (h : f.remark? limit last = some r) : r.note.Keyed := by
  simp only [OpenFunction.remark?] at h
  split at h
  · obtain rfl := Option.some.inj h
    exact ⟨rfl, rfl⟩
  · simp at h

theorem keyed_of_mem_closed {limit : Int} {openOne : Option OpenFunction}
    {last : Nat} {r : Remark}
    (h : r ∈ (openOne.bind fun f => f.remark? limit last).toList) :
    r.note.Keyed := by
  rw [Option.mem_toList, Option.bind_eq_some_iff] at h
  obtain ⟨f, -, hf⟩ := h
  exact keyed_of_remark? hf

theorem keyed_longFunctionsFrom {limit : Int} {openOne : Option OpenFunction}
    {number : Nat} {lines : List String} :
    ∀ r ∈ longFunctionsFrom limit openOne number lines, r.note.Keyed := by
  induction lines generalizing openOne number with
  | nil =>
      intro r hr
      exact keyed_of_mem_closed hr
  | cons line rest ih =>
      intro r hr
      rw [longFunctionsFrom] at hr
      -- whether a function starts here decides what is closed and what is open
      cases hname : functionName? line with
      | none =>
          simp only [hname] at hr
          cases openOne with
          | none => exact ih r hr
          | some f =>
              simp only [List.nil_append] at hr
              split at hr
              · rcases List.mem_append.1 hr with hended | hlater
                · exact keyed_of_remark? (Option.mem_toList.1 hended)
                · exact ih r hlater
              · exact ih r hr
      | some name =>
          simp only [hname] at hr
          split at hr
          · rcases List.mem_append.1 hr with hhere | hlater
            · rcases List.mem_append.1 hhere with hclosed | hended
              · exact keyed_of_mem_closed hclosed
              · exact keyed_of_remark? (Option.mem_toList.1 hended)
            · exact ih r hlater
          · rcases List.mem_append.1 hr with hclosed | hlater
            · exact keyed_of_mem_closed hclosed
            · exact ih r hlater

theorem keyed_deadCodeFrom {number : Nat} {lines : List String} :
    ∀ r ∈ deadCodeFrom number lines, r.note.Keyed := by
  induction lines generalizing number with
  | nil => exact fun r hr => absurd hr List.not_mem_nil
  | cons line rest ih =>
      intro r hr
      rw [deadCodeFrom] at hr
      rcases List.mem_append.1 hr with hhere | hlater
      · obtain ⟨check, -, hhere⟩ := List.mem_filterMap.1 hhere
        rw [DeadCodeCheck.remark?] at hhere
        split at hhere
        · obtain ⟨following, -, hr'⟩ := Option.bind_eq_some_iff.1 hhere
          simp only at hr'
          split at hr'
          · simp at hr'
          · obtain rfl := Option.some.inj hr'
            exact ⟨rfl, rfl⟩
        · simp at hhere
      · exact ih r hlater

theorem keyed_firstLoading? {number : Nat} {lines : List String} {r : Remark}
    (h : firstLoading? number lines = some r) : r.note.Keyed := by
  induction lines generalizing number with
  | nil => simp [firstLoading?] at h
  | cons line rest ih =>
      rw [firstLoading?] at h
      split at h
      · obtain rfl := Option.some.inj h
        exact ⟨rfl, rfl⟩
      · exact ih h

theorem keyed_unvalidatedFrom {whole : List String} {route : Option Nat}
    {number : Nat} {lines : List String} :
    ∀ r ∈ unvalidatedFrom whole route number lines, r.note.Keyed := by
  induction lines generalizing route number with
  | nil => exact fun r hr => absurd hr List.not_mem_nil
  | cons line rest ih =>
      intro r hr
      unfold unvalidatedFrom at hr
      split at hr
      · exact ih r hr
      · rcases List.mem_append.1 hr with hhere | hlater
        · cases route with
          | none => exact absurd hhere List.not_mem_nil
          | some first =>
              simp only at hhere
              split at hhere
              · obtain rfl := List.mem_singleton.1 hhere
                exact ⟨rfl, rfl⟩
              · exact absurd hhere List.not_mem_nil
        · exact ih r hlater

-- =========================================================== catalogue

theorem keyed_securityRules :
    ∀ rule ∈ securityRules, rule.inspection.Keyed := by
  unfold securityRules
  simp only [List.forall_mem_cons]
  refine ⟨?secrets, keyed_notesOf fun _ => ⟨rfl, rfl⟩, keyed_notesOf fun _ =>
    ⟨rfl, rfl⟩, fun _ h => absurd h List.not_mem_nil⟩
  refine keyed_perLine fun line n hn => ?_
  obtain ⟨kind, -, hkind⟩ := List.mem_flatMap.1 hn
  obtain ⟨found, -, rfl⟩ := List.mem_map.1 hkind
  exact ⟨rfl, rfl⟩

theorem keyed_qualityRules : ∀ rule ∈ qualityRules, rule.inspection.Keyed := by
  unfold qualityRules
  simp only [List.forall_mem_cons]
  exact ⟨fun _ => keyed_longFunctionsFrom, keyed_notesOf fun _ => ⟨rfl, rfl⟩,
    fun _ => keyed_deadCodeFrom, fun _ h => absurd h List.not_mem_nil⟩

theorem keyed_learningRules :
    ∀ rule ∈ learningRules, rule.inspection.Keyed := by
  unfold learningRules
  simp only [List.forall_mem_cons]
  refine ⟨keyed_notesOf fun _ => ⟨rfl, rfl⟩, ?privacy,
    keyed_notesOf fun _ => ⟨rfl, rfl⟩, keyed_notesOf fun _ => ⟨rfl, rfl⟩,
    ?validation, ?explanations, fun _ h => absurd h List.not_mem_nil⟩
  case privacy =>
    intro source r hr
    exact absurd (remarks_treePrivacy source ▸ hr) List.not_mem_nil
  case validation =>
    intro source r hr
    simp only [dataValidation, Inspection.remarks] at hr
    split at hr
    · exact keyed_firstLoading? (Option.mem_toList.1 hr)
    · exact absurd hr List.not_mem_nil
  case explanations =>
    intro source r hr
    simp only [explainability, Inspection.remarks] at hr
    split at hr
    · split at hr
      · exact absurd hr List.not_mem_nil
      · obtain rfl := List.mem_singleton.1 hr
        exact ⟨rfl, rfl⟩
    · exact absurd hr List.not_mem_nil

theorem keyed_frameworkRules :
    ∀ rule ∈ frameworkRules, rule.inspection.Keyed := by
  intro rule hrule
  rcases List.mem_append.1 hrule with hown | hnode
  · obtain ⟨f, -, rfl⟩ := List.mem_map.1 hown
    exact keyed_notesOf fun _ => ⟨rfl, rfl⟩
  · suffices h : ∀ rule ∈ nodeRules, rule.inspection.Keyed from h rule hnode
    unfold nodeRules
    simp only [List.forall_mem_cons]
    exact ⟨keyed_notesOf fun _ => ⟨rfl, rfl⟩, keyed_notesOf fun _ => ⟨rfl, rfl⟩,
      fun _ => keyed_unvalidatedFrom, keyed_notesOf fun _ => ⟨rfl, rfl⟩,
      keyed_notesOf fun _ => ⟨rfl, rfl⟩, fun _ h => absurd h List.not_mem_nil⟩

/-- All notes of all catalogued rules name weaknesses and frameworks by texts or
not at all. -/
theorem keyed_of_mem_all {rule : Rule} (h : rule ∈ all) :
    rule.inspection.Keyed := by
  unfold all at h
  simp only [List.mem_append] at h
  rcases h with ((h | h) | h) | h
  · exact keyed_securityRules rule h
  · exact keyed_qualityRules rule h
  · exact keyed_learningRules rule h
  · exact keyed_frameworkRules rule h

-- ============================================================ findings

/-- What a check finds are the rule's remarks on the file. -/
theorem remark_of_mem_check {rule : Rule} {columns : Bool} {path : String}
    {source : Option Source} {f : Finding}
    (h : f ∈ rule.check columns path source) :
    ∃ s, ∃ r ∈ rule.inspection.remarks s, f = rule.finding path r := by
  cases columns with
  | false =>
      rw [check_columnless] at h
      exact absurd h List.not_mem_nil
  | true =>
      cases source with
      | none => exact absurd h List.not_mem_nil
      | some s =>
          rw [check_eq_map] at h
          obtain ⟨r, hr, rfl⟩ := List.mem_map.1 h
          exact ⟨s, r, hr, rfl⟩

/-- The standards of a catalogued rule's findings can be looked up. -/
theorem mappable_of_mem_check {rule : Rule} (hrule : rule ∈ all)
    {columns : Bool} {path : String} {source : Option Source} {f : Finding}
    (h : f ∈ rule.check columns path source) : f.Mappable := by
  obtain ⟨s, r, hr, rfl⟩ := remark_of_mem_check h
  obtain ⟨hweakness, hframework⟩ := keyed_of_mem_all hrule s r hr
  exact ⟨⟨rule.id, rfl⟩, rfl, ⟨r.note.metadata, rfl⟩, hweakness, hframework⟩

end Rule

end SourceAudit
