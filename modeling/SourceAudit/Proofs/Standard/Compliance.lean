/-
The compliance summary agrees with the standards attached to findings.

Findings are gone through twice: once to attach standards to them, once to count
them. Both times the standards are looked up from the same data
(`countFinding_eq`), and since no finding has a standard twice
(`nodup_ids_forFinding`), it is counted once for each (`tally?_foldl_count`). So
a summary of the findings counted so far, which says for every id what stands
for it (`Stands`), is one of all of them after the next
(`Summarises.countFinding`), and at the end (`foldlM_countFinding`).
-/
import SourceAudit.Proofs.Entries
import SourceAudit.Standard.Compliance
import SourceAudit.Value.Access

namespace SourceAudit

-- ============================================================= look-up

namespace Standard

/-- What is left after repeats are dropped has none. -/
theorem nodup_eraseDups (ids : List String) : ids.eraseDups.Nodup := by
  induction hn : ids.length using Nat.strongRecOn generalizing ids with
  | ind n ih =>
  cases ids with
  | nil => simp
  | cons id rest =>
      rw [List.eraseDups_cons, List.nodup_cons]
      have hlt : (rest.filter fun x => !x == id).length < n := by
        have hle : (rest.filter fun x => !x == id).length ≤ rest.length :=
          List.length_filter_le _ _
        rw [← hn, List.length_cons]
        omega
      exact ⟨by simp, ih _ hlt _ rfl⟩

theorem id_of_withId? {id : String} {s : Standard} (h : withId? id = some s) :
    s.id = id := by
  simpa using List.find?_some h

/-- The ids of the standards that the catalogue holds are the ids they were
looked up by. -/
theorem map_id_filterMap_withId? (ids : List String) :
    (ids.filterMap withId?).map id = ids.filter fun id =>
      (withId? id).isSome := by
  induction ids with
  | nil => rfl
  | cons id rest ih =>
      cases h : withId? id with
      | none => simp [h, ih]
      | some s => simp [h, ih, id_of_withId? h]

/-- The entry of a table for what can be a key. -/
theorem entryFor_ok (table : List (String × List String)) {key : Value}
    (h : key.isKey = true) : ∃ ids, entryFor table key = .ok ids := by
  unfold entryFor
  split
  · cases key with
    | list _ => simp [Value.isKey] at h
    | record _ => simp [Value.isKey] at h
    | _ => exact ⟨_, rfl⟩
  · exact ⟨_, rfl⟩

/-- The entry for a rule of what can be a framework's key. -/
theorem frameworkEntry_ok {framework : Value} (h : framework.isKey = true)
    (rule : String) :
    ∃ ids, frameworkEntry framework (.text rule) = .ok ids := by
  unfold frameworkEntry
  split
  · cases framework with
    | text f =>
        simp only
        split
        · exact ⟨_, rfl⟩
        · exact ⟨_, rfl⟩
    | list _ => simp [Value.isKey] at h
    | record _ => simp [Value.isKey] at h
    | _ => exact ⟨_, rfl⟩
  · exact ⟨_, rfl⟩

/-- The standards of a finding can be looked up if its rule is a text and all
else can be a key. -/
theorem forFinding_ok (rule : String) {weakness category framework : Value}
    (hweakness : weakness.isKey = true) (hcategory : category.isKey = true)
    (hframework : framework.isKey = true) :
    ∃ standards, forFinding (.text rule) weakness category framework
      = .ok standards := by
  obtain ⟨weak, hweak⟩ := entryFor_ok byWeakness hweakness
  obtain ⟨categorised, hcategorised⟩ := entryFor_ok byCategory hcategory
  obtain ⟨framed, hframed⟩ := frameworkEntry_ok hframework rule
  unfold forFinding namedFor
  rw [hweak, hcategorised, hframed]
  exact ⟨_, rfl⟩

theorem forFinding_eq_ok_iff {rule weakness category framework : Value}
    {standards : List Standard} :
    forFinding rule weakness category framework = .ok standards
      ↔ ∃ ids, namedFor rule weakness category framework = .ok ids ∧
          (inOrder ids).filterMap withId? = standards := by
  unfold forFinding
  cases namedFor rule weakness category framework with
  | error why => simp [bind, Except.bind]
  | ok ids => simp [bind, Except.bind, pure, Except.pure]

/-- No finding has a standard twice, however many tables name it. -/
theorem nodup_ids_forFinding {rule weakness category framework : Value}
    {standards : List Standard}
    (h : forFinding rule weakness category framework = .ok standards) :
    (standards.map id).Nodup := by
  obtain ⟨ids, -, rfl⟩ := forFinding_eq_ok_iff.1 h
  rw [map_id_filterMap_withId?]
  exact (nodup_eraseDups _).filter _

/-- The standards of a finding are those of the catalogue. -/
theorem withId?_of_mem_forFinding {rule weakness category framework : Value}
    {standards : List Standard}
    (h : forFinding rule weakness category framework = .ok standards)
    {s : Standard} (hs : s ∈ standards) : withId? s.id = some s := by
  obtain ⟨ids, -, rfl⟩ := forFinding_eq_ok_iff.1 h
  obtain ⟨id, -, hid⟩ := List.mem_filterMap.1 hs
  rw [id_of_withId? hid]
  exact hid

/-- The compliance framework with an id. -/
def compliance? (id : String) : Option Standard :=
  (withId? id).filter fun s => s.kind == .compliance

theorem compliance?_eq_some_iff {id : String} {s : Standard} :
    compliance? id = some s ↔ withId? id = some s ∧ s.kind = .compliance := by
  rw [compliance?, Option.filter_eq_some_iff, beq_iff_eq]

end Standard

-- ============================================================ attached

namespace Finding

/-- The ids of the standards attached to a finding. -/
def attached (f : Finding) : List String := f.standards.getD []

/-- An entry of the further data of a finding. -/
def datum (f : Finding) (name : String) :
    Value := Value.ofOption (f.metadata.get? name)

/-- A finding whose standards can be looked up: its rule is a text, its further
data are a record, and its category, weakness id and framework can be keys of a
table, as texts can. -/
structure Mappable (f : Finding) : Prop where
  rule : ∃ r, f.rule = .text r
  category : f.category.isKey = true
  metadata : ∃ fields, f.metadata = .record fields
  weakness : (f.datum "cwe").isKey = true
  framework : (f.datum "framework").isKey = true

/-- The second finding is the first with the standards that the tables name for
it, and their labels, attached. -/
def MapsTo (f m : Finding) : Prop :=
  ∃ standards,
    Standard.forFinding f.rule (f.datum "cwe") f.category (f.datum "framework")
      = .ok standards ∧
    m = { f with
      standards := some (standards.map Standard.id)
      frameworks := some (Standard.labels standards) }

theorem dataField_eq {f : Finding} {fields : List (String × Value)}
    (h : f.metadata = .record fields) (name : String) :
    ComplianceSummary.dataField name f.metadata = .ok (f.datum name) := by
  unfold ComplianceSummary.dataField datum
  rw [h]
  rfl

/-- Standards can be attached to a finding whose standards can be looked up. -/
theorem Mappable.withStandards {f : Finding} (h : f.Mappable) :
    ∃ m, f.withStandards = .ok m ∧ f.MapsTo m := by
  obtain ⟨r, hrule⟩ := h.rule
  obtain ⟨fields, hfields⟩ := h.metadata
  obtain ⟨standards, hstandards⟩ :=
    Standard.forFinding_ok r h.weakness h.category h.framework
  rw [← hrule] at hstandards
  have hfield (name : String) :
      (if f.metadata.isTruthy then ComplianceSummary.dataField name f.metadata
        else .ok .null)
        = .ok (f.datum name) := by
    split
    · exact dataField_eq hfields name
    · rename_i hempty
      -- no further data at all are as good as data without the entry
      obtain rfl : fields = [] := by
        simpa [hfields, Value.isTruthy] using hempty
      simp [datum, hfields, Value.get?, Value.lookup, Value.ofOption]
  refine ⟨_, ?_, standards, hstandards, rfl⟩
  simp [Finding.withStandards, hfield, hstandards, bind, Except.bind, pure,
    Except.pure]

end Finding

-- ============================================================= tallies

namespace Tally

/-- How many findings of a level are counted. -/
def atLevel (t : Tally) : Severity → Nat
  | .critical => t.critical
  | .high => t.high
  | .medium => t.medium
  | .low => t.low

@[simp] theorem id_add (t : Tally) (level : Severity) :
    (t.add level).id = t.id := by
  cases level <;> rfl

@[simp] theorem count_add (t : Tally) (level : Severity) :
    (t.add level).count = t.count + 1 := by
  cases level <;> rfl

@[simp] theorem atLevel_add (t : Tally) (level level' : Severity) :
    (t.add level).atLevel level' = t.atLevel level' + if level = level' then 1
      else 0 := by
  cases level <;> cases level' <;> rfl

/-- A tally that counts the findings its standard is attached to. -/
structure CountsIn (t : Tally) (findings : List Finding) : Prop where
  count : t.count = findings.countP fun f => t.id ∈ f.attached
  atLevel : ∀ level,
    t.atLevel level = findings.countP fun f => t.id ∈ f.attached ∧
      f.severity = level
  sum : t.count = t.critical + t.high + t.medium + t.low

/-- A new tally counts nothing, and there is nothing to count where its standard
is not attached. -/
theorem countsIn_new (s : Standard) {findings : List Finding}
    (h : ∀ f ∈ findings, s.id ∉ f.attached) :
    CountsIn { id := s.id, name := s.name } findings := by
  have hnone (p : Finding → Prop) [DecidablePred p] :
      (findings.countP fun f => s.id ∈ f.attached ∧ p f) = 0 := by
    refine List.countP_eq_zero.2 fun f hf => ?_
    simp [h f hf]
  refine ⟨?_, fun level => ?_, rfl⟩
  · simpa using (hnone fun _ => True).symm
  · rw [hnone]
    cases level <;> rfl

/-- One more finding is counted if the standard is attached to it. -/
theorem CountsIn.snoc {t : Tally} {findings : List Finding}
    (h : t.CountsIn findings) (f : Finding) :
    CountsIn (if t.id ∈ f.attached then t.add f.severity else t)
      (findings ++ [f]) := by
  by_cases hattached : t.id ∈ f.attached
  · rw [if_pos hattached]
    refine ⟨?_, fun level => ?_, ?_⟩
    · simp [h.count, hattached]
    · by_cases hlevel : f.severity = level <;>
        simp [h.atLevel, hattached, hlevel]
    · have hsum := h.sum
      cases f.severity <;> simp only [add] <;> omega
  · rw [if_neg hattached]
    refine ⟨?_, fun level => ?_, h.sum⟩
    · simp [h.count, hattached]
    · simp [h.atLevel, hattached]

end Tally

namespace ComplianceSummary

/-- The tally of a standard. -/
def tally? (summary : ComplianceSummary) (id : String) : Option Tally :=
  Entries.find? Tally.id id summary

/-- A tally, new if there is none, after one more finding. -/
def raised (s : Standard) (level : Severity) (t : Option Tally) : Tally :=
  (t.getD { id := s.id, name := s.name }).add level

variable {summary : ComplianceSummary}

theorem count_eq_upsert {s : Standard} (h : s.kind = .compliance)
    (level : Severity) :
    summary.count level s
      = Entries.upsert Tally.id s.id
        (({ id := s.id, name := s.name } : Tally).add level)
          (fun t => t.add level) summary := by
  unfold count Entries.upsert
  simp [h]

/-- Counting for a compliance framework raises its tally and no other. -/
theorem tally?_count {s : Standard} (h : s.kind = .compliance)
    (level : Severity) (id : String) :
    tally? (summary.count level s) id
      = if id = s.id then some (raised s level (summary.tally? id))
        else summary.tally? id := by
  unfold tally? raised
  rw [count_eq_upsert h, Entries.find?_upsert]
  · split
    · cases Entries.find? Tally.id id summary <;> rfl
    · rfl
  · simp
  · simp

/-- Standards of other kinds are not counted. -/
theorem count_of_other {s : Standard} (h : s.kind ≠ .compliance)
    (level : Severity) : summary.count level s = summary := by
  simp [count, h]

theorem nodup_count {s : Standard} (h : (summary.map Tally.id).Nodup)
    (level : Severity) : ((summary.count level s).map Tally.id).Nodup := by
  by_cases hkind : s.kind = .compliance
  · rw [count_eq_upsert hkind]
    exact Entries.nodup_keys_upsert (by simp) (by simp) h
  · rwa [count_of_other hkind]

/-- What a finding does to the tally of a standard: raises it once if the
standard is a compliance framework and attached to the finding. -/
def marked (id : String) (attached : List String) (level : Severity)
    (t : Option Tally) : Option Tally :=
  match Standard.compliance? id with
  | some s => if id ∈ attached then some (raised s level t) else t
  | none => t

/-- A finding that has each of its standards once is counted once for each. -/
theorem tally?_foldl_count {standards : List Standard}
    (hnodup : (standards.map Standard.id).Nodup)
    (hknown : ∀ s ∈ standards, Standard.withId? s.id = some s)
    (level : Severity) (id : String) :
    tally? (standards.foldl (fun summary s => summary.count level s) summary) id
      = marked id (standards.map Standard.id) level (summary.tally? id) := by
  induction standards generalizing summary with
  | nil => cases h : Standard.compliance? id <;> simp [marked, h]
  | cons s rest ih =>
      obtain ⟨hs, hrest⟩ := List.nodup_cons.1 hnodup
      have hwith : Standard.withId? s.id = some s := hknown s List.mem_cons_self
      rw [List.foldl_cons, ih hrest fun x hx =>
        hknown x (List.mem_cons_of_mem s hx)]
      unfold marked
      by_cases hkind : s.kind = .compliance
      · rw [tally?_count hkind]
        by_cases hid : id = s.id
        · -- the standard itself: the rest does not have it again
          have hcompliance : Standard.compliance? id = some s :=
            Standard.compliance?_eq_some_iff.2 ⟨hid ▸ hwith, hkind⟩
          rw [hcompliance]
          subst hid
          simp [hs]
        · cases Standard.compliance? id <;> simp [hid]
      · rw [count_of_other hkind]
        cases hcompliance : Standard.compliance? id with
        | none => rfl
        | some c =>
            have hid : id ≠ s.id := by
              rintro rfl
              obtain ⟨hc, hckind⟩ :=
                Standard.compliance?_eq_some_iff.1 hcompliance
              obtain rfl : s = c := Option.some.inj (hwith.symm.trans hc)
              exact hkind hckind
            simp [hid]

theorem nodup_foldl_count (h : (summary.map Tally.id).Nodup)
    (standards : List Standard) (level : Severity) :
    ((standards.foldl (fun summary s => summary.count level s) summary).map
      Tally.id).Nodup := by
  induction standards generalizing summary with
  | nil => exact h
  | cons s rest ih => exact ih (nodup_count h level)

-- ============================================================ findings

/-- A finding with standards attached is counted for these, since they are
looked up from the same data again. -/
theorem countFinding_eq {f m : Finding} (h : f.Mappable) (hm : f.MapsTo m) :
    ∃ standards : List Standard, m.attached = standards.map Standard.id ∧
      (standards.map Standard.id).Nodup ∧
      (∀ s ∈ standards, Standard.withId? s.id = some s) ∧
      ∀ summary, countFinding summary m
        = .ok (standards.foldl (fun summary s =>
          summary.count m.severity s) summary) := by
  obtain ⟨fields, hfields⟩ := h.metadata
  obtain ⟨standards, hstandards, rfl⟩ := hm
  refine ⟨standards, rfl, Standard.nodup_ids_forFinding hstandards,
    fun s hs => Standard.withId?_of_mem_forFinding hstandards hs,
    fun summary => ?_⟩
  simp [countFinding, Finding.dataField_eq hfields, hstandards, bind,
    Except.bind, pure, Except.pure]

/-- What stands for an id once findings are counted: no tally where the id is
not of a compliance framework or is attached to none of them, and else one that
counts them. -/
inductive Stands (id : String) (counted : List Finding) : Option Tally → Prop
  | other (h : Standard.compliance? id = none) : Stands id counted none
  | unattached (h : ∀ m ∈ counted, id ∉ m.attached) : Stands id counted none
  | tallied {s : Standard} {t : Tally} (h : Standard.compliance? id = some s)
      (hattached : ∃ m ∈ counted, id ∈ m.attached) (hid : t.id = id)
      (hcounts : t.CountsIn counted) : Stands id counted (some t)

/-- What stands after one more finding. -/
theorem Stands.marked {id : String} {counted : List Finding} {t : Option Tally}
    (h : Stands id counted t) (m : Finding) :
    Stands id (counted ++ [m]) (marked id m.attached m.severity t) := by
  cases hcompliance : Standard.compliance? id with
  | none =>
      cases h with
      | tallied h' => simp [hcompliance] at h'
      | _ =>
          simpa [ComplianceSummary.marked, hcompliance] using .other hcompliance
  | some s =>
      have hid : s.id = id :=
        Standard.id_of_withId?
          (Standard.compliance?_eq_some_iff.1 hcompliance).1
      simp only [ComplianceSummary.marked, hcompliance]
      cases h with
      | other h' => simp [hcompliance] at h'
      | unattached hnone =>
          have hcounts := (Tally.countsIn_new s (hid ▸ hnone)).snoc m
          split
          · rename_i hm
            refine .tallied hcompliance ⟨m, by simp,
              hm⟩ (by simp [raised, hid]) ?_
            simpa [raised, hid, hm] using hcounts
          · rename_i hm
            refine .unattached fun f hf => ?_
            rcases List.mem_append.1 hf with hf | hf
            · exact hnone f hf
            · exact List.mem_singleton.1 hf ▸ hm
      | @tallied _ t _ hattached hid' hcounts =>
          have hcounts' := hcounts.snoc m
          obtain ⟨f, hf, hfid⟩ := hattached
          have hstill : ∃ f ∈ counted ++ [m], id ∈ f.attached :=
            ⟨f, List.mem_append_left _ hf, hfid⟩
          split
          · rename_i hm
            refine .tallied hcompliance hstill (by simp [raised, hid']) ?_
            simpa [raised, hid', hm] using hcounts'
          · rename_i hm
            exact .tallied hcompliance hstill hid'
              (by simpa [hid', hm] using hcounts')

theorem Stands.isSome_iff {id : String} {counted : List Finding}
    {t : Option Tally} (h : Stands id counted t) :
    t.isSome = true ↔
      (∃ s, Standard.withId? id = some s ∧ s.kind = .compliance) ∧
      ∃ m ∈ counted, id ∈ m.attached := by
  simp only [← Standard.compliance?_eq_some_iff]
  cases h with
  | other h => simp [h]
  | unattached h =>
      refine ⟨fun h' => absurd h' (by simp), ?_⟩
      rintro ⟨-, m, hm, hid⟩
      exact absurd hid (h m hm)
  | tallied h hattached => exact ⟨fun _ => ⟨⟨_, h⟩, hattached⟩, fun _ => rfl⟩

/-- A summary of the findings counted so far. -/
structure Summarises (summary : ComplianceSummary) (counted : List Finding) :
    Prop where
  nodup : (summary.map Tally.id).Nodup
  stands : ∀ id, Stands id counted (summary.tally? id)

theorem summarises_nil : Summarises [] [] :=
  ⟨List.nodup_nil, fun _ => .unattached (by simp)⟩

variable {counted : List Finding}

/-- One more finding is counted. -/
theorem Summarises.countFinding {f m : Finding} (h : Summarises summary counted)
    (hf : f.Mappable) (hm : f.MapsTo m) :
    ∃ summary', countFinding summary m = .ok summary' ∧
      Summarises summary' (counted ++ [m]) := by
  obtain ⟨standards, hattached, hids, hknown, hcount⟩ := countFinding_eq hf hm
  refine ⟨_, hcount summary, nodup_foldl_count h.nodup standards m.severity,
    fun id => ?_⟩
  rw [tally?_foldl_count hids hknown, ← hattached]
  exact (h.stands id).marked m

/-- All findings are counted, one after another. -/
theorem Summarises.foldlM_countFinding {findings mapped : List Finding}
    (h : Summarises summary counted) (hf : ∀ f ∈ findings, f.Mappable)
    (hmapped : List.Forall₂ Finding.MapsTo findings mapped) :
    ∃ summary',
      mapped.foldlM ComplianceSummary.countFinding summary = .ok summary' ∧
      Summarises summary' (counted ++ mapped) := by
  induction hmapped generalizing summary counted with
  | nil => exact ⟨summary, rfl, by simpa using h⟩
  | @cons f m findings mapped hm _ ih =>
      obtain ⟨summary₁, hstep, h₁⟩ :=
        h.countFinding (hf f List.mem_cons_self) hm
      obtain ⟨summary₂, hrun, h₂⟩ := ih h₁ fun x hx =>
        hf x (List.mem_cons_of_mem f hx)
      refine ⟨summary₂, ?_, by simpa using h₂⟩
      rw [List.foldlM_cons, hstep]
      exact hrun

end ComplianceSummary

/-- Standards are attached to all findings whose standards can be looked up. -/
theorem mapM_withStandards {findings : List Finding}
    (h : ∀ f ∈ findings, f.Mappable) :
    ∃ mapped, findings.mapM Finding.withStandards = .ok mapped ∧
      List.Forall₂ Finding.MapsTo findings mapped := by
  induction findings with
  | nil => exact ⟨[], rfl, .nil⟩
  | cons f findings ih =>
      obtain ⟨m, hm, hmaps⟩ := (h f List.mem_cons_self).withStandards
      obtain ⟨mapped, hmapped, hall⟩ := ih fun x hx =>
        h x (List.mem_cons_of_mem f hx)
      refine ⟨m :: mapped, ?_, .cons hmaps hall⟩
      rw [List.mapM_cons, hm, hmapped]
      rfl

/-- No finding has a standard attached to it twice. -/
theorem Finding.MapsTo.nodup_attached {f m : Finding} (h : f.MapsTo m) :
    m.attached.Nodup := by
  obtain ⟨standards, hstandards, rfl⟩ := h
  exact Standard.nodup_ids_forFinding hstandards

/-- The compliance summary agrees with the standards attached to findings. Each
finding gets the standards the tables name for it, none twice; the summary has
one tally for each compliance framework that is attached to some finding; and
the tally counts the findings it is attached to, in all and by severity. -/
theorem withCompliance_agrees {findings : List Finding}
    (h : ∀ f ∈ findings, f.Mappable) :
    ∃ mapped summary, withCompliance findings = .ok (mapped, summary) ∧
      List.Forall₂ (fun f m => f.MapsTo m ∧ m.attached.Nodup) findings mapped ∧
      (summary.map Tally.id).Nodup ∧
      (∀ id, id ∈ summary.map Tally.id
        ↔ (∃ s, Standard.withId? id = some s ∧ s.kind = .compliance) ∧
          ∃ m ∈ mapped, id ∈ m.attached) ∧
      ∀ t ∈ summary, t.CountsIn mapped := by
  obtain ⟨mapped, hmapM, hmapped⟩ := mapM_withStandards h
  obtain ⟨summary, hrun, hsummary⟩ :=
    ComplianceSummary.summarises_nil.foldlM_countFinding h hmapped
  rw [List.nil_append] at hsummary
  refine ⟨mapped, summary, ?_, hmapped.imp fun _ _ hm =>
    ⟨hm, hm.nodup_attached⟩, hsummary.nodup, fun id => ?_, fun t ht => ?_⟩
  · simp [withCompliance, ComplianceSummary.ofFindings, hmapM, hrun, bind,
      Except.bind, pure, Except.pure]
  · rw [← Entries.isSome_find?]
    exact (hsummary.stands id).isSome_iff
  · have hstands := hsummary.stands t.id
    rw [ComplianceSummary.tally?,
      Entries.find?_of_mem hsummary.nodup ht] at hstands
    cases hstands with
    | tallied _ _ _ hcounts => exact hcounts

/-- Personal data left in the open: its weakness id, its category and its rule
all name one article of the data protection regulation. -/
def privacyLeak (severity : Severity) : Finding where
  rule := .text "app.privacy"
  severity := severity
  category := .text "encryption"
  message := .text "Personal data are stored in the open"
  file := .text "app.py"
  line := .null
  column := .null
  snippet := .null
  remediation := .null
  confidence := .null
  metadata := .record [("cwe", .text "CWE-200")]
  standards := none
  frameworks := none

theorem mappable_privacyLeak (level : Severity) :
    (privacyLeak level).Mappable :=
  ⟨⟨_, rfl⟩, rfl, ⟨_, rfl⟩, rfl, rfl⟩

theorem attached_privacyLeak {level : Severity} {m : Finding}
    (h : (privacyLeak level).MapsTo m) :
    "gdpr_art_32" ∈ m.attached ∧ m.severity = level := by
  obtain ⟨standards, hstandards, rfl⟩ := h
  obtain ⟨ids, hids, rfl⟩ := Standard.forFinding_eq_ok_iff.1 hstandards
  obtain rfl : _ = ids := Except.ok.inj hids
  refine ⟨?_, rfl⟩
  show _ ∈ List.map Standard.id _
  rw [Standard.map_id_filterMap_withId?, List.mem_filter, Standard.inOrder,
    List.mem_eraseDups, List.mem_mergeSort]
  have hweak : "gdpr_art_32"
      ∈ Standard.entry Standard.byWeakness "CWE-200" := by decide
  refine ⟨?_, by decide⟩
  rw [List.append_assoc, List.append_assoc]
  exact List.mem_append_left _ hweak

/-- Two such findings count twice for it and not six times. -/
theorem withCompliance_agrees_privacyLeak :
    (∀ f ∈ [privacyLeak .high, privacyLeak .low], f.Mappable) ∧
      ∃ mapped summary, withCompliance [privacyLeak .high, privacyLeak .low]
          = .ok (mapped, summary) ∧
        ∃ t ∈ summary, t.id = "gdpr_art_32" ∧ t.count = 2 ∧ t.critical = 0 ∧
        t.high = 1 ∧
          t.medium = 0 ∧ t.low = 1 := by
  have hmappable : ∀ f ∈ [privacyLeak .high, privacyLeak .low], f.Mappable := by
    simp [mappable_privacyLeak]
  obtain ⟨mapped, summary, hrun, hmapped, -, hkeys, hcounts⟩ :=
    withCompliance_agrees hmappable
  refine ⟨hmappable, mapped, summary, hrun, ?_⟩
  obtain _ | ⟨⟨h₁, -⟩, _ | ⟨⟨h₂, -⟩, _ | _⟩⟩ := hmapped
  obtain ⟨ha₁, hs₁⟩ := attached_privacyLeak h₁
  obtain ⟨ha₂, hs₂⟩ := attached_privacyLeak h₂
  obtain ⟨t, ht, hid⟩ :=
    List.mem_map.1 ((hkeys "gdpr_art_32").2 ⟨⟨_, rfl, rfl⟩, _, by simp, ha₁⟩)
  have hlevel := (hcounts t ht).atLevel
  refine ⟨t, ht, hid, ?_, (hlevel .critical).trans ?_, (hlevel .high).trans ?_,
    (hlevel .medium).trans ?_, (hlevel .low).trans ?_⟩
  · rw [(hcounts t ht).count]
    simp [hid, ha₁, ha₂]
  all_goals simp [hid, ha₁, ha₂, hs₁, hs₂]

end SourceAudit
