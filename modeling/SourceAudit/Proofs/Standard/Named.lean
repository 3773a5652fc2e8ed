/-
Which of the standards that the tables name for a finding it gets.

Four tables name standards: for the weakness id of a finding, for its category,
for its framework and rule together, and for patterns that occur in the id of
its rule (`Named`). No table has a key twice, so what is looked up under a key
is what stands in its row (`mem_entry_iff`), and all that is named comes
together (`mem_gathered_iff`). An id that the catalogue does not hold is then
passed over. The tables have one such id (`unlisted_iff_of_named`), and it
stands in a single row (`named_unlisted_iff`).
-/
import SourceAudit.Proofs.Standard.Compliance

namespace SourceAudit.Standard

-- ============================================================== tables

/-- A row of the tables that is about a finding has the id of a standard. -/
inductive Named (rule : String) (weakness category framework : Option String)
    (id : String) : Prop
  | ofWeakness {w : String} {ids : List String} (h : weakness = some w)
      (hrow : (w, ids) ∈ byWeakness) (hid : id ∈ ids)
  | ofCategory {c : String} {ids : List String} (h : category = some c)
      (hrow : (c, ids) ∈ byCategory) (hid : id ∈ ids)
  | ofFramework {f : String} {rows : List (String × List String)}
    {ids : List String}
      (h : framework = some f) (hrows : (f, rows) ∈ byFramework)
      (hrow : (rule, ids) ∈ rows)
      (hid : id ∈ ids)
  | ofRule {pattern : String} {ids : List String}
    (hrow : (pattern, ids) ∈ byRulePattern)
      (hoccurs : (Pattern.of pattern).occursIn (Text.lower rule) = true)
      (hid : id ∈ ids)

/-- In a table without repeated keys a row is found under its key. -/
theorem lookup_eq_some_iff_mem {α : Type} {table : List (String × α)}
    (hkeys : (table.map Prod.fst).Nodup) {key : String} {row : α} :
    table.lookup key = some row ↔ (key, row) ∈ table := by
  induction table with
  | nil => simp
  | cons first rest ih =>
      obtain ⟨k, r⟩ := first
      obtain ⟨hk, hrest⟩ := List.nodup_cons.1 hkeys
      by_cases hkey : key = k
      · subst hkey
        have hnot : (key, row) ∉ rest :=
          fun hmem => hk (List.mem_map.2 ⟨_, hmem, rfl⟩)
        simp [hnot, eq_comm]
      · have hne : (key == k) = false := by simpa using hkey
        rw [List.lookup_cons, hne, ih hrest]
        simp [hkey]

theorem mem_entry_iff {α : Type} {table : List (String × List α)}
    (hkeys : (table.map Prod.fst).Nodup) {key : String} {x : α} :
    x ∈ entry table key ↔ ∃ row, (key, row) ∈ table ∧ x ∈ row := by
  simp only [← lookup_eq_some_iff_mem hkeys, entry]
  cases table.lookup key with
  | none => simp
  | some row => simp

theorem nodup_byWeakness : (byWeakness.map Prod.fst).Nodup := by decide

theorem nodup_byCategory : (byCategory.map Prod.fst).Nodup := by decide

theorem nodup_byFramework : (byFramework.map Prod.fst).Nodup := by decide

theorem nodup_rows_byFramework :
    ∀ framework ∈ byFramework, (framework.2.map Prod.fst).Nodup := by
  decide

theorem mem_forFramework_iff {framework rule id : String} :
    id ∈ forFramework framework rule
      ↔ ∃ rows, (framework, rows) ∈ byFramework ∧ ∃ ids, (rule, ids) ∈ rows ∧
      id ∈ ids := by
  have hkeys : ((entry byFramework framework).map Prod.fst).Nodup := by
    rw [entry]
    cases hrows : byFramework.lookup framework with
    | none => exact List.nodup_nil
    | some rows =>
        exact nodup_rows_byFramework _
          ((lookup_eq_some_iff_mem nodup_byFramework).1 hrows)
  rw [forFramework, mem_entry_iff hkeys]
  simp only [mem_entry_iff nodup_byFramework]
  constructor
  · rintro ⟨ids, ⟨rows, hrows, hrow⟩, hid⟩
    exact ⟨rows, hrows, ids, hrow, hid⟩
  · rintro ⟨rows, hrows, ids, hrow, hid⟩
    exact ⟨ids, ⟨rows, hrows, hrow⟩, hid⟩

-- ============================================================= look-up

/-- A text that may be absent is looked up, and the empty text like any
other. -/
theorem entryFor_ofText? {table : List (String × List String)}
    (hempty : table.lookup "" = none) (key : Option String) :
    entryFor table (Value.ofText? key) = .ok (key.elim [] (entry table)) := by
  cases key with
  | none => rfl
  | some k =>
      by_cases hk : k = ""
      · subst hk
        simp [entryFor, Value.ofText?, Value.ofOption, Value.isTruthy,
          entry, hempty]
      · simp [entryFor, Value.ofText?, Value.ofOption, Value.isTruthy, hk]

theorem frameworkEntry_ofText? (framework : Option String) (rule : String) :
    frameworkEntry (Value.ofText? framework) (.text rule)
      = .ok (framework.elim [] fun f => forFramework f rule) := by
  cases framework with
  | none => rfl
  | some f =>
      by_cases hf : f = ""
      · subst hf
        rfl
      · cases hrows : byFramework.lookup f with
        | none =>
            simp [frameworkEntry, Value.ofText?, Value.ofOption, Value.isTruthy,
              hf, hrows, forFramework, entry]
        | some rows =>
            simp [frameworkEntry, Value.ofText?, Value.ofOption, Value.isTruthy,
              hf, hrows]

variable (rule : String) (weakness category framework : Option String)

/-- What the four tables name, one after another. -/
def gathered : List String :=
  weakness.elim [] (entry byWeakness) ++ category.elim [] (entry byCategory)
    ++ (framework.elim [] fun f => forFramework f rule) ++ forRule rule

theorem namedFor_ofText? :
    namedFor (.text rule) (Value.ofText? weakness) (Value.ofText? category)
      (Value.ofText? framework)
        = .ok (gathered rule weakness category framework) := by
  unfold namedFor gathered
  rw [entryFor_ofText? rfl, entryFor_ofText? rfl, frameworkEntry_ofText?]
  rfl

variable {rule weakness category framework}

theorem mem_forRule_iff {id : String} :
    id ∈ forRule rule ↔ ∃ row ∈ byRulePattern,
      (Pattern.of row.1).occursIn (Text.lower rule) = true ∧ id ∈ row.2 := by
  rw [forRule, List.mem_flatMap]
  refine exists_congr fun row => and_congr_right fun _ => ?_
  dsimp only
  split
  · rename_i hoccurs
    simp [hoccurs]
  · rename_i hoccurs
    simp [hoccurs]

/-- What is gathered is what is named. -/
theorem mem_gathered_iff {id : String} :
    id ∈ gathered rule weakness category framework
      ↔ Named rule weakness category framework id := by
  simp only [gathered, List.mem_append]
  constructor
  · rintro (((h | h) | h) | h)
    · cases weakness with
      | none => cases h
      | some w =>
          obtain ⟨ids, hrow, hid⟩ := (mem_entry_iff nodup_byWeakness).1 h
          exact .ofWeakness rfl hrow hid
    · cases category with
      | none => cases h
      | some c =>
          obtain ⟨ids, hrow, hid⟩ := (mem_entry_iff nodup_byCategory).1 h
          exact .ofCategory rfl hrow hid
    · cases framework with
      | none => cases h
      | some f =>
          obtain ⟨rows, hrows, ids, hrow, hid⟩ := mem_forFramework_iff.1 h
          exact .ofFramework rfl hrows hrow hid
    · obtain ⟨row, hrow, hoccurs, hid⟩ := mem_forRule_iff.1 h
      exact .ofRule hrow hoccurs hid
  · intro h
    cases h with
    | ofWeakness h hrow hid =>
        subst h
        exact .inl
          (.inl (.inl ((mem_entry_iff nodup_byWeakness).2 ⟨_, hrow, hid⟩)))
    | ofCategory h hrow hid =>
        subst h
        exact .inl
          (.inl (.inr ((mem_entry_iff nodup_byCategory).2 ⟨_, hrow, hid⟩)))
    | ofFramework h hrows hrow hid =>
        subst h
        exact .inl (.inr (mem_forFramework_iff.2 ⟨_, hrows, _, hrow, hid⟩))
    | ofRule hrow hoccurs hid =>
        exact .inr (mem_forRule_iff.2 ⟨_, hrow, hoccurs, hid⟩)

-- =========================================================== catalogue

/-- Of the ids that a table names for a finding, the catalogue lacks one. -/
theorem unlisted_iff_of_named {id : String}
    (h : Named rule weakness category framework id) :
    withId? id = none ↔ id = "asvs_v4" := by
  have hunlisted : withId? "asvs_v4" = none := by decide
  refine ⟨fun hnone => ?_, fun hid => hid ▸ hunlisted⟩
  have hweakness : ∀ row ∈ byWeakness, ∀ id ∈ row.2,
      id = "asvs_v4" ∨ (withId? id).isSome = true := by decide
  have hcategory : ∀ row ∈ byCategory, ∀ id ∈ row.2, (withId? id).isSome
      = true := by decide
  have hframework : ∀ rows ∈ byFramework, ∀ row ∈ rows.2, ∀ id ∈ row.2,
      (withId? id).isSome = true := by decide
  have hrule : ∀ row ∈ byRulePattern, ∀ id ∈ row.2, (withId? id).isSome
      = true := by decide
  have hlost : ¬(withId? id).isSome = true := by simp [hnone]
  cases h with
  | ofWeakness _ hrow hid => exact (hweakness _ hrow id hid).resolve_right hlost
  | ofCategory _ hrow hid => exact absurd (hcategory _ hrow id hid) hlost
  | ofFramework _ hrows hrow hid =>
      exact absurd (hframework _ hrows _ hrow id hid) hlost
  | ofRule hrow _ hid => exact absurd (hrule _ hrow id hid) hlost

/-- The id that the catalogue lacks is named for one weakness id, whatever else
there is to a finding. -/
theorem named_unlisted_iff :
    Named rule weakness category framework "asvs_v4" ↔
      weakness = some "CWE-352" := by
  constructor
  · intro h
    have hweakness : ∀ row ∈ byWeakness, "asvs_v4" ∈ row.2 →
        row.1 = "CWE-352" := by decide
    have hcategory : ∀ row ∈ byCategory, "asvs_v4" ∉ row.2 := by decide
    have hframework : ∀ rows ∈ byFramework, ∀ row ∈ rows.2,
        "asvs_v4" ∉ row.2 := by decide
    have hrule : ∀ row ∈ byRulePattern, "asvs_v4" ∉ row.2 := by decide
    cases h with
    | ofWeakness h hrow hid => rw [h, ← hweakness _ hrow hid]
    | ofCategory _ hrow hid => exact absurd hid (hcategory _ hrow)
    | ofFramework _ hrows hrow hid =>
        exact absurd hid (hframework _ hrows _ hrow)
    | ofRule hrow _ hid => exact absurd hid (hrule _ hrow)
  · intro h
    have hrow : ("CWE-352", ["owasp_top10_2021_a01", "asvs_v4"])
        ∈ byWeakness := by decide
    exact .ofWeakness h hrow (by decide)

variable (rule weakness category framework)

/-- A finding gets the standards that the tables name for it, less the one that
the catalogue lacks. -/
theorem exists_forFinding :
    ∃ standards, forFinding (.text rule) (Value.ofText? weakness)
      (Value.ofText? category)
        (Value.ofText? framework) = .ok standards ∧
      ∀ id, id ∈ standards.map Standard.id
        ↔ Named rule weakness category framework id ∧ id ≠ "asvs_v4" := by
  refine ⟨_,
    forFinding_eq_ok_iff.2 ⟨_,
      namedFor_ofText? rule weakness category framework, rfl⟩, fun id => ?_⟩
  rw [map_id_filterMap_withId?, List.mem_filter, inOrder, List.mem_eraseDups,
    List.mem_mergeSort, mem_gathered_iff]
  refine and_congr_right fun hnamed => ?_
  rw [Ne, ← unlisted_iff_of_named hnamed, Option.isSome_iff_ne_none]

/-- The standards of a finding, whatever its rule, weakness id, category and
framework, the last three of which may be absent. It has each standard once; it
has what the tables name for it, but for one id that the catalogue lacks; and
nothing that they name is lost unless its weakness id is the one that the lost
id is named for. -/
theorem named_kept_iff_listed :
    ∃ standards, forFinding (.text rule) (Value.ofText? weakness)
      (Value.ofText? category)
        (Value.ofText? framework) = .ok standards ∧
      (standards.map Standard.id).Nodup ∧
      (∀ id, id ∈ standards.map Standard.id
        ↔ Named rule weakness category framework id ∧ id ≠ "asvs_v4") ∧
      ((∀ id, id ∈ standards.map Standard.id ↔
        Named rule weakness category framework id) ↔
          weakness ≠ some "CWE-352") := by
  obtain ⟨standards, hfound, hids⟩ :=
    exists_forFinding rule weakness category framework
  refine ⟨standards, hfound, nodup_ids_forFinding hfound, hids, ?_⟩
  have hunlisted : Named rule weakness category framework "asvs_v4" ↔
      weakness = some "CWE-352" :=
    named_unlisted_iff
  rw [Ne, ← hunlisted]
  constructor
  · intro hall hnamed
    exact ((hids _).1 ((hall _).2 hnamed)).2 rfl
  · intro hnone id
    rw [hids]
    refine ⟨And.left, fun hnamed => ⟨hnamed, ?_⟩⟩
    rintro rfl
    exact hnone hnamed

/-- Two standards are named for a request that is sent in another's name, and
one of them is lost. -/
theorem named_standard_lost :
    ∃ standards, forFinding (.text "x")
      (.text "CWE-352") .null .null = .ok standards ∧
      Named "x" (some "CWE-352") none none "owasp_top10_2021_a01" ∧
      Named "x" (some "CWE-352") none none "asvs_v4" ∧
      "owasp_top10_2021_a01" ∈ standards.map Standard.id ∧
      "asvs_v4" ∉ standards.map Standard.id := by
  obtain ⟨standards, hfound, hids⟩ :=
    exists_forFinding "x" (some "CWE-352") none none
  have hrow : ("CWE-352", ["owasp_top10_2021_a01", "asvs_v4"])
      ∈ byWeakness := by decide
  have hkept : Named "x" (some "CWE-352") none none "owasp_top10_2021_a01" :=
    .ofWeakness rfl hrow (by decide)
  have hlost : Named "x" (some "CWE-352") none none "asvs_v4" :=
    named_unlisted_iff.2 rfl
  refine ⟨standards, hfound, hkept, hlost, (hids _).2 ⟨hkept, by decide⟩,
    fun hmem => ?_⟩
  exact ((hids _).1 hmem).2 rfl

end SourceAudit.Standard
