/-
Which files of a group its scanners look at.

A file comes into a group by its ending in small letters (`groupOf_eq_iff`),
while a scanner compares the ending as it is written with a list of its own
(`opens_iff`). All endings in those lists are small, so the scanners of a group
look at those of its files whose ending is written in small letters
(`grouped_selected_iff_small`), and at no others.
-/
import SourceAudit.Proofs.Scan.Unreadable

namespace SourceAudit

open SecurityScan

-- ============================================================== groups

namespace SecurityScan

/-- The ending of a file, in small letters, decides its group. -/
theorem groupOf_eq_iff {g : String × List String} (hg : g ∈ groups)
    (path : String) :
    groupOf path = g.1 ↔ Text.lower (Path.ending path) ∈ g.2 := by
  have hnamed : ∀ g ∈ groups, g.1 ≠ "other" ∧ ∀ g' ∈ groups, g'.1 = g.1 →
      g' = g := by decide
  have hapart : ∀ g ∈ groups, ∀ e ∈ g.2, ∀ g' ∈ groups, e ∈ g'.2 →
      g' = g := by decide
  unfold groupOf
  cases hfound : groups.find? fun g =>
    g.2.contains (Text.lower (Path.ending path)) with
  | none =>
      have hnone := List.find?_eq_none.1 hfound g hg
      rw [List.contains_iff_mem] at hnone
      exact ⟨fun hother => absurd hother.symm (hnamed g hg).1, fun hmem =>
        absurd hmem hnone⟩
  | some found =>
      have hmem := List.mem_of_find?_eq_some hfound
      have hending : Text.lower (Path.ending path) ∈ found.2 := by
        simpa using List.find?_some hfound
      constructor
      · intro hname
        rwa [← (hnamed g hg).2 found hmem hname]
      · intro hmem'
        rw [hapart g hg _ hmem' found hmem hending]
        rfl

end SecurityScan

-- ============================================================ scanners

namespace Scanner

/-- The endings of the files that a scanner opens. -/
def endings : Scanner → List String
  | .bandit => [".py"]
  | .semgrep =>
    [".py", ".js", ".jsx", ".ts", ".tsx", ".java", ".go", ".rb", ".php"]
  | .script => [".js", ".jsx", ".ts", ".tsx"]
  | .safety => []
  | .custom => []

/-- The scanners that the files of a group are meant for. -/
def ofGroup : String → List Scanner
  | "python" => [.bandit, .semgrep]
  | "javascript" => [.script, .semgrep]
  | "typescript" => [.script, .semgrep]
  | _ => []

/-- A scanner opens files by their endings as they are written. -/
theorem opens_iff (s : Scanner) (path : String) :
    s.opens path = true ↔ Path.ending path ∈ s.endings := by
  cases s with
  | bandit => simp [opens, endings, Bandit.takes]
  | semgrep => simp [opens, endings, Semgrep.takes]
  | script => simp [opens, endings, ScriptScan.takes]
  | safety => simp [opens, endings]
  | custom => simp [opens, endings]

/-- The endings that scanners look for are small. -/
theorem lower_of_mem_endings {s : Scanner} {e : String} (h : e ∈ s.endings) :
    Text.lower e = e := by
  have hsmall : ∀ s ∈ all, ∀ e ∈ s.endings, Text.lower e = e := by decide
  exact hsmall s (by cases s <;> decide) e h

/-- The scanners that a group is meant for know the endings of its files in
small letters. -/
theorem lower_mem_endings {s : Scanner} {path : String}
    (h : s ∈ ofGroup (groupOf path)) :
    Text.lower (Path.ending path) ∈ s.endings := by
  have hknown : ∀ g ∈ groups, ∀ s ∈ ofGroup g.1, ∀ e ∈ g.2,
      e ∈ s.endings := by decide
  rcases List.mem_append.1 (groupOf_mem path) with hgroup | hother
  · obtain ⟨g, hg, hname⟩ := List.mem_map.1 hgroup
    rw [← hname] at h
    exact hknown g hg s h _ ((groupOf_eq_iff hg path).1 hname.symm)
  · rw [List.mem_singleton.1 hother] at h
    cases h

theorem cases_of_mem_ofGroup {s : Scanner} {group : String}
    (h : s ∈ ofGroup group) : s = .bandit ∨ s = .semgrep ∨ s = .script := by
  unfold ofGroup at h
  split at h
  · rcases List.mem_pair.1 h with rfl | rfl <;> simp
  · rcases List.mem_pair.1 h with rfl | rfl <;> simp
  · rcases List.mem_pair.1 h with rfl | rfl <;> simp
  · cases h

/-- A scanner that a group is meant for supports one file alone exactly if it
opens it. -/
theorem supports_singleton {s : Scanner} {group : String}
    (h : s ∈ ofGroup group) (path : String) :
    s.supports [path] = s.opens path := by
  rcases cases_of_mem_ofGroup h with rfl | rfl | rfl <;> simp [supports, opens]

/-- Files that such a scanner does not open make no difference to its report. -/
theorem scanSafely_filter {s : Scanner} {group : String} (h : s ∈ ofGroup group)
    (box : Toolbox) (tree : FileTree) (paths : List String) :
    s.scanSafely box tree (paths.filter s.opens)
      = s.scanSafely box tree paths := by
  have htwice (takes : String → Bool) :
      (paths.filter takes).filter takes = paths.filter takes := by
    simp [List.filter_filter]
  rcases cases_of_mem_ofGroup h with rfl | rfl | rfl
  · show Bandit.scan box tree (paths.filter Bandit.takes)
      = Bandit.scan box tree paths
    unfold Bandit.scan Bandit.scanBy
    rw [htwice]
  · show Semgrep.scan box tree (paths.filter Semgrep.takes)
      = Semgrep.scan box tree paths
    unfold Semgrep.scan Semgrep.scanBy
    rw [htwice]
  · have hscan : ScriptScan.scan tree (paths.filter script.opens)
        = ScriptScan.scan tree paths := by
      show ScriptScan.scan tree (paths.filter ScriptScan.takes) = _
      unfold ScriptScan.scan
      rw [htwice]
    unfold scanSafely scan
    dsimp only
    rw [hscan]

end Scanner

namespace SecurityScan

/-- A file comes into the group of programs or scripts by its ending in any
letters. The two scanners that the group is meant for support it, and have it
among the files they work on, exactly if its ending is written in small letters;
the other files make no difference to what they report. -/
theorem grouped_selected_iff_small (path : String) (s : Scanner)
    (h : s ∈ Scanner.ofGroup (groupOf path)) :
    let small := Text.lower (Path.ending path) = Path.ending path
    (s.supports [path] = true ↔ small)
      ∧ (∀ paths : List String, path ∈ paths.filter s.opens ↔
        path ∈ paths ∧ small)
      ∧ ∀ box tree paths, s.scanSafely box tree paths
          = s.scanSafely box tree (paths.filter s.opens) := by
  intro small
  have hopens : s.opens path = true ↔ small := by
    rw [s.opens_iff]
    exact ⟨Scanner.lower_of_mem_endings, fun hsmall =>
      hsmall ▸ Scanner.lower_mem_endings h⟩
  refine ⟨?_, fun paths => ?_, fun box tree paths =>
    (Scanner.scanSafely_filter h ..).symm⟩
  · rw [Scanner.supports_singleton h, hopens]
  · rw [List.mem_filter, hopens]

theorem grouped_selected_iff_small_script :
    Scanner.script ∈ Scanner.ofGroup (groupOf "src/app.tsx")
      ∧ Scanner.script.supports ["src/app.tsx"] = true
      ∧ "src/app.tsx"
        ∈ ["a.js", "src/app.tsx"].filter Scanner.script.opens := by
  have hgroup : Scanner.script ∈ Scanner.ofGroup (groupOf "src/app.tsx") := by
    rw [show groupOf "src/app.tsx" = "typescript" from rfl]
    decide
  have hsmall : Text.lower (Path.ending "src/app.tsx")
      = Path.ending "src/app.tsx" := rfl
  obtain ⟨hsupports, hselected, -⟩ :=
    grouped_selected_iff_small "src/app.tsx" .script hgroup
  exact ⟨hgroup, hsupports.2 hsmall, (hselected _).2 ⟨by decide, hsmall⟩⟩

/-- A program and a script whose endings are capitals are grouped as such, and
no scanner that their groups are meant for supports or opens them. -/
theorem capital_endings_unselected :
    groupOf "A.PY" = "python" ∧ groupOf "A.JS" = "javascript" ∧
      groupOf "A.TS" = "typescript"
      ∧ ∀ path ∈ ["A.PY", "A.JS", "A.TS"], ∀ s ∈ Scanner.ofGroup (groupOf path),
          s.supports [path] = false ∧ s.opens path = false := by
  have hpython : groupOf "A.PY" = "python" := rfl
  have hjavascript : groupOf "A.JS" = "javascript" := rfl
  have htypescript : groupOf "A.TS" = "typescript" := rfl
  refine ⟨hpython, hjavascript, htypescript, ?_⟩
  simp only [List.forall_mem_cons, hpython, hjavascript, htypescript]
  decide

end SecurityScan

end SourceAudit
