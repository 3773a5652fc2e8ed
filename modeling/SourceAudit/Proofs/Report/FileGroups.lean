/-
The order of the findings in the page of a report.

The page shows the findings file by file, the files in the order in which they
come up (`files_in_order`). Those of a file are ordered by the words for their
levels, last word first, and the words are not in the order of what they stand
for: medium comes first, then low, high and critical (`byLevel_eq`). Nothing is
lost by that and those of one level keep their order, but the most severe come
first just where no finding of a file is more severe than another, or only
medium ones are more severe than low ones (`worstFirst_byLevel_iff`).
-/
import SourceAudit.Proofs.Finding.Levels
import SourceAudit.Proofs.Report.Markup
import Mathlib.Data.List.Induction

namespace SourceAudit.Report

-- =============================================================== files

/-- The files come in the order in which they first come up. -/
theorem files_in_order (names : List String) :
    (names.foldl (fun seen file => if seen.contains file then seen
      else seen ++ [file]) []).Pairwise fun a b =>
        names.idxOf a < names.idxOf b := by
  induction names using List.reverseRecOn with
  | nil => exact .nil
  | append_singleton names name ih =>
      have hmem := (files_foldl names [] List.nodup_nil).2
      simp only [List.not_mem_nil, false_or] at hmem
      rw [List.foldl_append, List.foldl_cons, List.foldl_nil]
      generalize names.foldl _ [] = seen at hmem ih ⊢
      have hseen : seen.Pairwise fun a b =>
          (names ++ [name]).idxOf a < (names ++ [name]).idxOf b := by
        refine ih.imp_of_mem fun {a b} ha hb hlt => ?_
        rwa [List.idxOf_append_of_mem ((hmem a).1 ha),
          List.idxOf_append_of_mem ((hmem b).1 hb)]
      split
      · exact hseen
      · rename_i hnew
        have hname : name ∉ names :=
          fun h => hnew (List.contains_iff_mem.2 ((hmem name).2 h))
        refine List.pairwise_append.2 ⟨hseen, List.pairwise_singleton _ _,
          fun a ha b hb => ?_⟩
        obtain rfl := List.mem_singleton.1 hb
        have ha := (hmem a).1 ha
        rw [List.idxOf_append_of_mem ha, List.idxOf_append_of_notMem hname]
        exact Nat.lt_add_right _ (List.idxOf_lt_length_iff.2 ha)

-- ============================================================== levels

/-- The levels by their words, last word first. -/
def wordOrder : List Severity :=
  [.medium, .low, .high, .critical]

theorem mem_wordOrder (level : Severity) : level ∈ wordOrder := by
  cases level <;> decide

theorem le_trans_byLevel (a b c : Finding) :
    decide (b.severity.name ≤ a.severity.name) = true →
      decide (c.severity.name ≤ b.severity.name) = true →
        decide (c.severity.name ≤ a.severity.name) = true := by
  simp only [decide_eq_true_eq]
  exact fun hab hbc => String.le_trans hbc hab

theorem le_total_byLevel (a b : Finding) :
    (decide (b.severity.name ≤ a.severity.name) ||
      decide (a.severity.name ≤ b.severity.name)) = true := by
  simpa using String.le_total b.severity.name a.severity.name

/-- The findings of a level keep their order. -/
theorem ofSeverity_byLevel (level : Severity) (found : List Finding) :
    ofSeverity level (byLevel found) = ofSeverity level found := by
  have hsame : (ofSeverity level found).Pairwise fun a b =>
      decide (b.severity.name ≤ a.severity.name) = true := by
    refine List.pairwise_of_forall_mem_list fun a ha b hb => ?_
    have hlevel : b.severity = a.severity :=
      (mem_ofSeverity.1 hb).2.trans (mem_ofSeverity.1 ha).2.symm
    exact decide_eq_true (hlevel ▸ String.le_refl _)
  have hsublist : (ofSeverity level found).Sublist (byLevel found) :=
    List.sublist_mergeSort le_trans_byLevel le_total_byLevel hsame
      List.filter_sublist
  have hfilter := hsublist.filter fun f => f.severity == level
  have hself : (ofSeverity level found).filter (fun f => f.severity == level)
      = ofSeverity level found := by
    rw [ofSeverity, List.filter_filter]
    simp
  rw [hself] at hfilter
  exact (hfilter.eq_of_length
    ((byLevel_perm found).filter _).length_eq.symm).symm

theorem ofSeverity_cons (level : Severity) (f : Finding)
    (found : List Finding) :
    ofSeverity level (f :: found)
      = if f.severity = level then f :: ofSeverity level found
        else ofSeverity level found := by
  simp [ofSeverity, List.filter_cons]

/-- Findings that are ordered by the words for their levels fall into the
levels. -/
theorem eq_flatMap_ofSeverity {found : List Finding}
    (h : found.Pairwise fun a b => b.severity.name ≤ a.severity.name) :
    found = wordOrder.flatMap fun level => ofSeverity level found := by
  induction found with
  | nil => rfl
  | cons f rest ih =>
      obtain ⟨hf, hrest⟩ := List.pairwise_cons.1 h
      obtain ⟨before, after, hsplit⟩ :=
        List.append_of_mem (mem_wordOrder f.severity)
      have hwords : wordOrder.Pairwise fun l l' =>
          ¬l.name ≤ l'.name := by decide
      rw [hsplit] at hwords
      obtain ⟨-, hlater, hearlier⟩ := List.pairwise_append.1 hwords
      -- levels before the first finding's have no findings, and it joins those
      -- of its own level
      have hnone : ∀ level ∈ before, ofSeverity level rest = [] := by
        intro level hlevel
        rw [List.eq_nil_iff_forall_not_mem]
        intro g hg
        obtain ⟨hmem, rfl⟩ := mem_ofSeverity.1 hg
        exact hearlier _ hlevel _ List.mem_cons_self (hf g hmem)
      have hbefore : ∀ level ∈ before, ofSeverity level (f :: rest) = [] := by
        intro level hlevel
        rw [ofSeverity_cons, if_neg, hnone level hlevel]
        rintro rfl
        exact hearlier _ hlevel _ List.mem_cons_self (String.le_refl _)
      have hafter : ∀ level ∈ after, ofSeverity level (f :: rest)
          = ofSeverity level rest := by
        intro level hlevel
        rw [ofSeverity_cons, if_neg]
        rintro rfl
        exact (List.pairwise_cons.1 hlater).1 _ hlevel (String.le_refl _)
      have hlevels := ih hrest
      rw [hsplit, List.flatMap_append, List.flatMap_cons,
        List.flatMap_eq_nil_iff.2 hnone, List.nil_append] at hlevels
      rw [hsplit, List.flatMap_append, List.flatMap_cons,
        List.flatMap_eq_nil_iff.2 hbefore, List.flatMap_congr hafter,
        ofSeverity_cons, if_pos rfl, List.nil_append, List.cons_append,
        ← hlevels]

/-- The page shows the findings of a file in the order of the words for their
levels. -/
theorem byLevel_eq (found : List Finding) :
    byLevel found = wordOrder.flatMap fun level => ofSeverity level found := by
  have hsorted :=
    List.pairwise_mergeSort le_trans_byLevel le_total_byLevel found
  simp only [decide_eq_true_eq] at hsorted
  calc byLevel found
      = wordOrder.flatMap fun level => ofSeverity level (byLevel found) :=
        eq_flatMap_ofSeverity hsorted
    _ = wordOrder.flatMap fun level => ofSeverity level found :=
        List.flatMap_congr fun level _ => ofSeverity_byLevel level found

theorem byLevel_byLevel (found : List Finding) :
    byLevel (byLevel found) = byLevel found :=
  List.mergeSort_of_pairwise
    (List.pairwise_mergeSort le_trans_byLevel le_total_byLevel found)

/-- No finding is more severe than one before it. -/
def WorstFirst (found : List Finding) : Prop :=
  found.Pairwise fun a b => b.severity.rank ≤ a.severity.rank

/-- Of two levels the lower one is shown first, unless they are low and
medium. -/
theorem lower_first (lower higher : Severity) (h : lower.rank < higher.rank) :
    [lower, higher].Sublist wordOrder ∨ (lower = .low ∧ higher = .medium) := by
  cases lower <;> cases higher <;> revert h <;> decide

/-- The most severe findings come first just if no finding is more severe than
another, save medium ones than low ones. -/
theorem worstFirst_byLevel_iff (found : List Finding) :
    WorstFirst (byLevel found) ↔
      ∀ f ∈ found, ∀ g ∈ found, f.severity.rank < g.severity.rank →
        f.severity = .low ∧ g.severity = .medium := by
  rw [WorstFirst, byLevel_eq, List.pairwise_flatMap,
    List.pairwise_iff_forall_sublist]
  constructor
  · rintro ⟨-, hlevels⟩ f hf g hg hlt
    refine (lower_first f.severity g.severity hlt).resolve_left
      fun hsublist => ?_
    have hle :=
      hlevels hsublist f (mem_ofSeverity.2 ⟨hf, rfl⟩) g
        (mem_ofSeverity.2 ⟨hg, rfl⟩)
    exact Nat.not_le_of_lt hlt hle
  · refine fun h => ⟨fun level _ => ?_, fun {l l'} hsublist f hf g hg => ?_⟩
    · refine List.pairwise_of_forall_mem_list fun a ha b hb => ?_
      exact Nat.le_of_eq (by rw [(mem_ofSeverity.1 ha).2,
        (mem_ofSeverity.1 hb).2])
    · refine Nat.le_of_not_lt fun hlt => ?_
      obtain ⟨hfound, rfl⟩ := mem_ofSeverity.1 hf
      obtain ⟨hfound', rfl⟩ := mem_ofSeverity.1 hg
      obtain ⟨hlow, hmedium⟩ := h f hfound g hfound' hlt
      rw [hlow, hmedium] at hsublist
      exact absurd hsublist (by decide)

-- ============================================================== groups

def inFile (file : String) (found : List Finding) : List Finding :=
  found.filter fun f => f.file.shown == file

/-- The files of a page with the findings that it shows for each. -/
def groups (found : List Finding) : List (String × List Finding) :=
  (files found).map fun file => (file, byLevel (inFile file found))

theorem files_eq_groups (found : List Finding) : (groups found).map Prod.fst
    = files found := by
  rw [groups, List.map_map]
  exact List.map_id _

/-- The page is made of the groups. -/
theorem fileSections_eq_groups (found : List Finding) :
    fileSections found = (groups found).flatMap fun g =>
      fileSection g.1 g.2 := by
  rw [groups, List.flatMap_map]
  refine List.flatMap_congr fun file _ => ?_
  simp only [fileSection, byLevel_byLevel]
  rfl

/-- The page shows the findings in groups, one for each file in the order in
which the files first come up. In a group there are all findings of its file,
each once, those of one level in their order; but the levels come in the order
of their words. So the most severe are first just if none is more severe than
another, save medium ones than low ones. -/
theorem page_groups_by_word (found : List Finding) :
    fileSections found = (groups found).flatMap (fun g => fileSection g.1 g.2) ∧
      (∀ file, file ∈ (groups found).map Prod.fst ↔
        ∃ f ∈ found, f.file.shown = file) ∧
      ((groups found).map Prod.fst).Pairwise (fun file later =>
        (found.map fun f => f.file.shown).idxOf file
          < (found.map fun f => f.file.shown).idxOf later) ∧
      ∀ g ∈ groups found,
        g.2.Perm (inFile g.1 found) ∧
          (∀ level, ofSeverity level g.2
            = ofSeverity level (inFile g.1 found)) ∧
          g.2 = ([.medium, .low, .high, .critical].flatMap fun level =>
            ofSeverity level (inFile g.1 found)) ∧
          (WorstFirst g.2 ↔
            ∀ a ∈ g.2, ∀ b ∈ g.2, a.severity.rank < b.severity.rank →
              a.severity = .low ∧ b.severity = .medium) := by
  refine ⟨fileSections_eq_groups found, fun file => ?_, ?_, fun g hg => ?_⟩
  · rw [files_eq_groups, mem_files, List.mem_map]
  · rw [files_eq_groups]
    exact files_in_order _
  · obtain ⟨file, -, rfl⟩ := List.mem_map.1 hg
    have hperm := byLevel_perm (inFile file found)
    refine ⟨hperm, fun level => ofSeverity_byLevel level _, byLevel_eq _, ?_⟩
    rw [worstFirst_byLevel_iff]
    simp only [hperm.mem_iff]

/-- A finding in a file, with nothing to it but its level. -/
def findingAt (level : Severity) : Finding :=
  ⟨.text "r", level, .text "security", .text level.name, .text "a.js", .int 1,
    .null, .text "", .text "", .real 0.5, .record [], none, none⟩

/-- A low finding is shown before a critical one in the same file. -/
theorem low_shown_before_critical :
    groups [findingAt .critical, findingAt .low]
        = [("a.js", [findingAt .low, findingAt .critical])] ∧
      ¬WorstFirst [findingAt .low, findingAt .critical] := by
  have hfiles : files [findingAt .critical, findingAt .low]
      = ["a.js"] := by decide
  have hfile : inFile "a.js" [findingAt .critical, findingAt .low]
      = [findingAt .critical, findingAt .low] := rfl
  constructor
  · rw [groups, hfiles, List.map_singleton, hfile, byLevel_eq]
    rfl
  · intro h
    exact absurd (List.pairwise_cons.1 h).1 (by decide)

end SourceAudit.Report
