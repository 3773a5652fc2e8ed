/-
Findings level by level.

The findings of one level are some of all findings, in the order in which they
were added. One level after another, whatever the order of the levels, they are
all findings again, none left out and none twice (`flatMap_ofSeverity_perm`),
and those of one level are still in their order (`ofSeverity_flatMap`). The
counts that go with the findings are how many of each level there are
(`lookup_severityCounts`), so they add up to the number of findings
(`sum_length_ofSeverity`).
-/
import SourceAudit.Finding.Basic
import SourceAudit.Proofs.Entries
import Mathlib.Algebra.GroupWithZero.Nat

namespace SourceAudit

/-- The place of a level in the order from the lowest to the highest. -/
def Severity.rank (level : Severity) : Nat := Severity.all.idxOf level

/-- What is kept when findings are added one after another. -/
def resultsAfter (added : List Finding) : List Finding :=
  added.foldl (fun found f => found ++ [f]) []

theorem resultsAfter_eq (added : List Finding) :
    resultsAfter added = added := by
  rw [resultsAfter, List.foldl_append_eq_append, List.nil_append,
    ← List.flatMap_def, List.flatMap_singleton']

variable {levels : List Severity} {level : Severity} {found : List Finding}

theorem mem_ofSeverity {f : Finding} :
    f ∈ ofSeverity level found ↔ f ∈ found ∧ f.severity = level := by
  rw [ofSeverity, List.mem_filter, beq_iff_eq]

/-- Level by level each finding comes up once. -/
theorem flatMap_ofSeverity_perm (hnodup : levels.Nodup)
    (hall : ∀ level, level ∈ levels) (found : List Finding) :
    (levels.flatMap fun level => ofSeverity level found).Perm found := by
  have hkeys := Entries.perm_filter_of_keys hnodup Finding.severity found
  rwa [List.filter_eq_self.2 fun f _ =>
    decide_eq_true (hall f.severity)] at hkeys

theorem ofSeverity_ofSeverity (level other : Severity) (found : List Finding) :
    ofSeverity level (ofSeverity other found)
      = if other = level then ofSeverity level found else [] := by
  unfold ofSeverity
  rw [List.filter_filter]
  split
  · rename_i hsame
    simp [hsame]
  · rename_i hother
    rw [List.filter_eq_nil_iff]
    rintro f - hboth
    obtain ⟨hlevel, hother'⟩ := Bool.and_eq_true_iff.1 hboth
    exact hother ((beq_iff_eq.1 hother').symm.trans (beq_iff_eq.1 hlevel))

/-- Level by level the findings of one level keep their order. -/
theorem ofSeverity_flatMap (hnodup : levels.Nodup) (hmem : level ∈ levels)
    (found : List Finding) :
    ofSeverity level (levels.flatMap fun other => ofSeverity other found)
      = ofSeverity level found := by
  have hparts : ofSeverity level (levels.flatMap fun other =>
    ofSeverity other found)
      = levels.flatMap fun other => if other = level then ofSeverity level found
        else [] := by
    rw [ofSeverity, List.filter_flatMap]
    exact List.flatMap_congr fun other _ =>
      ofSeverity_ofSeverity level other found
  rw [hparts]
  obtain ⟨before, after, rfl⟩ := List.append_of_mem hmem
  have hbefore : level ∉ before :=
    fun h => (List.nodup_append.1 hnodup).2.2 _ h _ (by simp) rfl
  have hafter : level ∉ after :=
    (List.nodup_cons.1 (List.nodup_append.1 hnodup).2.1).1
  have hnone {others : List Severity} (h : level ∉ others) :
      (others.flatMap fun other => if other = level then ofSeverity level found
        else []) = [] := by
    rw [List.flatMap_eq_nil_iff]
    rintro other hother
    rw [if_neg (ne_of_mem_of_not_mem hother h)]
  rw [List.flatMap_append, List.flatMap_cons, hnone hbefore, hnone hafter,
    if_pos rfl, List.nil_append, List.append_nil]

/-- The counts by level add up to the number of findings. -/
theorem sum_length_ofSeverity (hnodup : levels.Nodup)
    (hall : ∀ level, level ∈ levels) (found : List Finding) :
    (levels.map fun level => (ofSeverity level found).length).sum
      = found.length := by
  rw [← List.length_flatMap]
  exact (flatMap_ofSeverity_perm hnodup hall found).length_eq

/-- The count that is told for a level is how many findings of it there are. -/
theorem lookup_severityCounts (level : Severity) (found : List Finding) :
    Value.lookup level.name (severityCounts found)
      = some (Value.ofNat (ofSeverity level found).length) := by
  rw [ofSeverity, ← List.countP_eq_length_filter]
  cases level <;> rfl

end SourceAudit
