/-
Findings without further data.

Findings are gone through twice. Where standards are attached to them, the
further data are asked only if there are any, so none at all are as good as
empty ones (`withStandards_of_furnished`). Where they are counted the data are
asked in any case, and a finding that has none is an error
(`countFinding_bare`). So standards are attached to all findings, and then
counting goes on up to the first that has no data and fails there
(`foldlM_countFinding_bare`).
-/
import SourceAudit.Proofs.Audit.Findings

namespace SourceAudit

-- ============================================================ attached

namespace Finding

/-- A finding with empty further data in place of none. -/
def furnished (f : Finding) : Finding :=
  match f.metadata with
  | .null => { f with metadata := .record [] }
  | _ => f

theorem furnished_of_null {f : Finding} (h : f.metadata = .null) :
    f.furnished = { f with metadata := .record [] } := by
  simp [furnished, h]

theorem furnished_of_ne {f : Finding} (h : f.metadata ≠ .null) :
    f.furnished = f := by
  unfold furnished
  split
  · rename_i hnull
    exact absurd hnull h
  · rfl

/-- A finding with standards and their labels attached. -/
def attach (f : Finding) (standards : List Standard) : Finding :=
  { f with
    standards := some (standards.map Standard.id)
    frameworks := some (Standard.labels standards) }

theorem furnished_attach (f : Finding) (standards : List Standard) :
    (f.attach standards).furnished = f.furnished.attach standards := by
  by_cases hnull : f.metadata = .null
  · rw [furnished_of_null hnull,
      furnished_of_null (f := f.attach standards) hnull]
    rfl
  · rw [furnished_of_ne hnull, furnished_of_ne (f := f.attach standards) hnull]

/-- Standards are attached to a finding without further data as to one with
empty data; the data stay as they are. -/
theorem withStandards_of_furnished {f : Finding} (h : f.furnished.Mappable) :
    ∃ m, f.withStandards = .ok m ∧ m.metadata = f.metadata ∧
      f.furnished.withStandards = .ok m.furnished ∧
      f.furnished.MapsTo m.furnished := by
  obtain ⟨mapped, hmapped, standards, hstandards, rfl⟩ := h.withStandards
  refine ⟨f.attach standards, ?_, rfl, ?_, ?_⟩
  · by_cases hnull : f.metadata = .null
    · rw [furnished_of_null hnull] at hstandards
      have hlooked : Standard.forFinding f.rule .null f.category .null
          = .ok standards := hstandards
      simp [withStandards, hnull, Value.isTruthy, hlooked, attach, bind,
        Except.bind, pure, Except.pure]
    · rw [furnished_of_ne hnull] at hmapped
      exact hmapped
  · rw [furnished_attach]
    exact hmapped
  · rw [furnished_attach]
    exact ⟨standards, hstandards, rfl⟩

/-- A finding with standards attached that has kept its further data, or their
absence. -/
def MapsFurnished (f m : Finding) : Prop :=
  m.metadata = f.metadata ∧ f.furnished.MapsTo m.furnished

theorem mapM_withStandards_furnished {findings : List Finding}
    (h : ∀ f ∈ findings, f.furnished.Mappable) :
    ∃ mapped, findings.mapM withStandards = .ok mapped ∧
      (findings.map furnished).mapM withStandards = .ok (mapped.map furnished) ∧
      List.Forall₂ MapsFurnished findings mapped := by
  induction findings with
  | nil => exact ⟨[], rfl, rfl, .nil⟩
  | cons f rest ih =>
      obtain ⟨m, hm, hkept, hfurnished, hmaps⟩ :=
        withStandards_of_furnished (h f List.mem_cons_self)
      obtain ⟨mapped, hmapped, hrest, hall⟩ := ih fun x hx =>
        h x (List.mem_cons_of_mem f hx)
      refine ⟨m :: mapped, ?_, ?_, .cons ⟨hkept, hmaps⟩ hall⟩
      · rw [List.mapM_cons, hm, hmapped]
        rfl
      · rw [List.map_cons, List.mapM_cons, hfurnished, hrest]
        rfl

end Finding

-- ============================================================= counted

namespace ComplianceSummary

/-- A finding without further data cannot be counted. -/
theorem countFinding_bare {m : Finding} (h : m.metadata = .null)
    (summary : ComplianceSummary) :
    countFinding summary m = .error (.noMember "NoneType" "get") := by
  unfold countFinding
  rw [h]
  rfl

/-- A finding that has further data is counted. -/
theorem exists_countFinding {f m : Finding} (h : f.furnished.Mappable)
    (hm : f.MapsFurnished m) (hdata : m.metadata ≠ .null)
    (summary : ComplianceSummary) :
    ∃ after, countFinding summary m = .ok after := by
  have hmaps := hm.2
  rw [Finding.furnished_of_ne hdata] at hmaps
  obtain ⟨standards, -, -, -, hcount⟩ := countFinding_eq h hmaps
  exact ⟨_, hcount summary⟩

/-- Counting fails at the first finding without further data. -/
theorem foldlM_countFinding_bare {findings mapped : List Finding}
    (h : ∀ f ∈ findings, f.furnished.Mappable)
    (hmapped : List.Forall₂ Finding.MapsFurnished findings mapped)
    (hbare : ∃ f ∈ findings, f.metadata = .null) (summary : ComplianceSummary) :
    mapped.foldlM countFinding summary
      = .error (.noMember "NoneType" "get") := by
  induction hmapped generalizing summary with
  | nil =>
      obtain ⟨f, hf, -⟩ := hbare
      cases hf
  | @cons f m rest mapped hm _ ih =>
      rw [List.foldlM_cons]
      by_cases hnull : m.metadata = .null
      · rw [countFinding_bare hnull]
        rfl
      · obtain ⟨after, hafter⟩ :=
          exists_countFinding (h f List.mem_cons_self) hm hnull summary
        rw [hafter]
        refine ih (fun x hx => h x (List.mem_cons_of_mem f hx)) ?_ after
        -- this finding has further data, so the one without is a later one
        obtain ⟨x, hx, hxnull⟩ := hbare
        rcases List.mem_cons.1 hx with rfl | hx
        · exact absurd (hm.1.trans hxnull) hnull
        · exact ⟨x, hx, hxnull⟩

end ComplianceSummary

-- =========================================================== the whole

/-- With empty data in place of none, all findings are counted. -/
theorem exists_withCompliance_furnished {findings : List Finding}
    (h : ∀ f ∈ findings, f.furnished.Mappable) :
    ∃ mapped summary,
      withCompliance (findings.map Finding.furnished)
        = .ok (mapped, summary) := by
  obtain ⟨mapped, summary, hok, -⟩ :=
    withCompliance_ok (List.forall_mem_map.2 h)
  exact ⟨mapped, summary, hok⟩

/-- One finding without further data is enough for the whole to fail. -/
theorem withCompliance_bare {findings : List Finding}
    (h : ∀ f ∈ findings, f.furnished.Mappable)
    (hbare : ∃ f ∈ findings, f.metadata = .null) :
    withCompliance findings = .error (.noMember "NoneType" "get") := by
  obtain ⟨mapped, hmapped, -, hall⟩ := Finding.mapM_withStandards_furnished h
  have hcount := ComplianceSummary.foldlM_countFinding_bare h hall hbare []
  simp [withCompliance, ComplianceSummary.ofFindings, hmapped, hcount, bind,
    Except.bind]

/-- Findings of which some may have no further data, and all of whose standards
can be looked up if no data count as empty data. Standards are attached to every
one of them, to those without data as if the data were empty. With empty data in
place of none all are counted as well; as they are, they are counted just if
none is without data, and where one is the whole fails. -/
theorem counted_iff_none_bare {findings : List Finding}
    (h : ∀ f ∈ findings, f.furnished.Mappable) :
    (∃ mapped, findings.mapM Finding.withStandards = .ok mapped ∧
      (findings.map Finding.furnished).mapM Finding.withStandards
        = .ok (mapped.map Finding.furnished)) ∧
    (∃ mapped summary,
      withCompliance (findings.map Finding.furnished) = .ok (mapped, summary)) ∧
    ((∃ mapped summary, withCompliance findings = .ok (mapped, summary))
      ↔ ∀ f ∈ findings, f.metadata ≠ .null) ∧
    ((∃ f ∈ findings, f.metadata = .null) →
      withCompliance findings = .error (.noMember "NoneType" "get")) := by
  obtain ⟨mapped, hmapped, hfurnished, -⟩ :=
    Finding.mapM_withStandards_furnished h
  have hwhole := exists_withCompliance_furnished h
  refine ⟨⟨mapped, hmapped, hfurnished⟩, hwhole, ⟨?_, fun hdata => ?_⟩,
    withCompliance_bare h⟩
  · rintro ⟨_, _, hok⟩ f hf hnull
    rw [withCompliance_bare h ⟨f, hf, hnull⟩] at hok
    cases hok
  · have hsame : findings.map Finding.furnished = findings :=
      (List.map_congr_left fun f hf =>
        Finding.furnished_of_ne (hdata f hf)).trans
        (List.map_id findings)
    rwa [hsame] at hwhole

/-- Personal data left in the open, as a finding without further data. -/
def bareLeak (severity : Severity) : Finding :=
  { privacyLeak severity with metadata := .null }

theorem mappable_furnished_bareLeak (level : Severity) :
    (bareLeak level).furnished.Mappable :=
  ⟨⟨_, rfl⟩, rfl, ⟨_, rfl⟩, rfl, rfl⟩

/-- Of two leaks one has further data and the other has none. Standards are
attached to both, and then neither is counted. -/
theorem counted_iff_none_bare_leaks :
    (∀ f ∈ [privacyLeak .high, bareLeak .low], f.furnished.Mappable) ∧
      (∃ mapped, [privacyLeak .high, bareLeak .low].mapM Finding.withStandards
        = .ok mapped) ∧
      withCompliance [privacyLeak .high, bareLeak .low]
        = .error (.noMember "NoneType" "get") := by
  have hmappable : ∀ f ∈ [privacyLeak .high, bareLeak .low],
      f.furnished.Mappable := by
    simp only [List.forall_mem_cons]
    exact ⟨mappable_privacyLeak .high,
      mappable_furnished_bareLeak .low, by simp⟩
  obtain ⟨⟨mapped, hmapped, -⟩, -, -, hfails⟩ := counted_iff_none_bare hmappable
  exact ⟨hmappable, ⟨mapped, hmapped⟩, hfails ⟨bareLeak .low, by simp, rfl⟩⟩

/-- A finding without further data fails where the same finding with empty data
does not. -/
theorem bare_finding_fails :
    withCompliance [bareLeak .low] = .error (.noMember "NoneType" "get") ∧
      (Fault.noMember "NoneType" "get").message
        = "'NoneType' object has no attribute 'get'" ∧
      ∃ mapped summary,
        withCompliance [{ bareLeak .low with metadata := .record [] }]
          = .ok (mapped, summary) := by
  have hmappable : ∀ f ∈ [bareLeak .low], f.furnished.Mappable := by
    simpa using mappable_furnished_bareLeak .low
  exact ⟨withCompliance_bare hmappable ⟨bareLeak .low, by simp, rfl⟩, by decide,
    exists_withCompliance_furnished hmappable⟩

end SourceAudit
