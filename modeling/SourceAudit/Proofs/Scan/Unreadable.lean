/-
What a file that cannot be read does to the findings in other files.

A scan goes group by group and scanner by scanner, so its findings are those of
each scanner in each group (`scanWith_eq_findings`). Three of the scanners open
the files they take one after another, and one that cannot be read ends their
scan of the whole group. So a further file that cannot be read silences the
scanners that open it, in its own group and nowhere else, and findings are lost
exactly if one of them had some before (`unreadable_silences_group`). The line
patterns skip such a file, and the check of dependencies never opens one.
-/
import SourceAudit.Proofs.Scan.Batch
import SourceAudit.Proofs.Scan.Copies
import SourceAudit.Proofs.Scan.Requirements
import Mathlib.Algebra.GroupWithZero.Nat
import Mathlib.Algebra.Order.BigOperators.Group.List
import Mathlib.Algebra.Order.Group.Nat
import Mathlib.Data.List.Flatten

namespace SourceAudit

open SecurityScan

-- ============================================================ scanners

namespace Scanner

/-- The findings of a scanner in the files of a group, if it takes any of
them. -/
def findings (s : Scanner) (box : Toolbox) (tree : FileTree)
    (files : List String) : List Finding :=
  if s.supports files then findingsOf (s.scanSafely box tree files) else []

/-- Whether a scanner opens a file, so that it cannot go on if it cannot read
it. -/
def opens : Scanner → String → Bool
  | .bandit, path => Bandit.takes path
  | .semgrep, path => Semgrep.takes path
  | .script, path => ScriptScan.takes path
  | .safety, _ => false
  | .custom, _ => false

/-- Scanners are told apart by their names. -/
theorem name_inj : ∀ s s' : Scanner, s.name = s'.name → s = s' := by
  intro s s'
  cases s <;> cases s' <;> decide

/-- A file is opened under its plain form as it is under any other. -/
theorem opens_normal (s : Scanner) (path : String) : s.opens (Path.normal path)
    = s.opens path := by
  cases s with
  | bandit => simp [opens, Bandit.takes]
  | semgrep => simp [opens, Semgrep.takes]
  | script => simp [opens, ScriptScan.takes]
  | safety => rfl
  | custom => rfl

/-- In no files there are no findings. -/
theorem findings_nil (s : Scanner) (box : Toolbox) (tree : FileTree) :
    s.findings box tree [] = [] := by
  cases s <;> rfl

/-- Files that a scanner takes and reports on alike have the same findings. -/
theorem findings_congr {s : Scanner} {box : Toolbox} {tree : FileTree}
    {files files' : List String}
    (hsupports : s.supports files = s.supports files')
    (hscan : s.scanSafely box tree files = s.scanSafely box tree files') :
    s.findings box tree files = s.findings box tree files' := by
  unfold findings
  rw [hsupports, hscan]

/-- The findings of a scanner say so. -/
theorem tool?_of_mem_findings {s : Scanner} {box : Toolbox} {tree : FileTree}
    {files : List String} {f : Finding} (h : f ∈ s.findings box tree files) :
    f.tool? = some s.name := by
  unfold findings at h
  split at h
  · rw [tool?_of_mem_findingsOf h, tool_scanSafely]
  · cases h

end Scanner

/-- A report of a failure has no findings. -/
theorem findingsOf_error (tool title : String) (why : Fault) :
    findingsOf (.ofOutcome tool title (.error why)) = [] := by
  unfold findingsOf
  rw [ToolReport.issues_ofOutcome_error]
  rfl

/-- Scripts of which the last cannot be read have no issues. -/
theorem mapM_unreadable {tree : FileTree} {path : String} {why : Fault}
    (h : tree.readText path = .error why) (files : List String) :
    ∃ why, (files ++ [path]).mapM (fun p => do
      return ScriptScan.textIssues p (← tree.readText p)) = .error why := by
  have hpath : (do return ScriptScan.textIssues path (← tree.readText path))
      = .error why := by
    rw [h]
    rfl
  exact Outcome.mapM_eq_error
    (List.mem_append_right files (List.mem_singleton_self path)) hpath

namespace Scanner

section Unreadable

variable {tree : FileTree} {path : String} {why : Fault}

/-- A scanner that opens a file it cannot read has no findings. -/
theorem findings_of_opens (h : tree.readText path = .error why) {s : Scanner}
    (hopens : s.opens path = true) (box : Toolbox) (files : List String) :
    s.findings box tree (files ++ [path]) = [] := by
  have htaken : ∀ takes : String → Bool, takes path = true →
      (files ++ [path]).filter takes = files.filter takes ++ [path] := by
    intro takes htakes
    rw [List.filter_append, List.filter_cons_of_pos htakes, List.filter_nil]
  suffices hsilent :
      findingsOf (s.scanSafely box tree (files ++ [path])) = [] by
    unfold findings
    rw [hsilent, ite_self]
  unfold scanSafely
  cases s with
  | bandit =>
      obtain ⟨why', hcopy⟩ := copyAll_unreadable h (List.mem_append_right
        (files.filter Bandit.takes) (List.mem_singleton_self path)) .empty
      show findingsOf (Bandit.scan box tree (files ++ [path])) = []
      unfold Bandit.scan Bandit.scanBy
      rw [htaken Bandit.takes hopens, if_neg (by simp), hcopy]
      exact findingsOf_error "bandit" "Bandit" why'
  | semgrep =>
      obtain ⟨why', hcopy⟩ := copyAll_unreadable h (List.mem_append_right
        (files.filter Semgrep.takes) (List.mem_singleton_self path)) .empty
      show findingsOf (Semgrep.scan box tree (files ++ [path])) = []
      unfold Semgrep.scan Semgrep.scanBy
      rw [htaken Semgrep.takes hopens, hcopy]
      exact findingsOf_error "semgrep" "Semgrep" why'
  | script =>
      obtain ⟨why', hread⟩ := mapM_unreadable h (files.filter ScriptScan.takes)
      have hscan : Scanner.script.scan box tree (files ++ [path])
          = .error why' := by
        show ScriptScan.scan tree (files ++ [path]) = .error why'
        unfold ScriptScan.scan
        rw [htaken ScriptScan.takes hopens, hread]
        rfl
      rw [hscan]
      rfl
  | safety => cases hopens
  | custom => cases hopens

/-- The check of dependencies looks for one list of requirements and opens no
file. -/
theorem findings_safety (box : Toolbox) (tree : FileTree)
    (files : List String) :
    Scanner.safety.findings box tree files
      = if files.any Safety.isList then
        findingsOf (Safety.scan box ["requirements.txt"])
        else [] := by
  show (if files.any Safety.takes then findingsOf (Safety.scan box files)
    else []) = _
  by_cases hany : files.any Safety.isList = true
  · have htaken : files.any Safety.takes = true := by
      obtain ⟨p, hp, hname⟩ := List.any_eq_true.1 hany
      exact List.any_eq_true.2 ⟨p, hp, Safety.takes_of_isList hname⟩
    have hscan : Safety.scan box files
        = Safety.scan box ["requirements.txt"] := by
      rw [Safety.scan_eq, Safety.scan_eq, if_pos hany,
        if_pos (by decide +kernel)]
    rw [if_pos hany, if_pos htaken, hscan]
  · have hscan : Safety.scan box files = .nothing "safety" := by
      rw [Safety.scan_eq, if_neg hany]
    rw [if_neg hany, hscan]
    exact ite_self _

/-- A scanner that does not open a file that cannot be read finds what it found
before, unless it is the check of dependencies, which may find more. -/
theorem findings_of_not_opens (h : tree.readText path = .error why)
    {s : Scanner} (hopens : s.opens path = false) (box : Toolbox)
    (files : List String) :
    (s.findings box tree files).Sublist (s.findings box tree (files ++ [path]))
      ∧ (s ≠ .safety →
        s.findings box tree (files ++ [path]) = s.findings box tree files) := by
  have hsame : ∀ takes : String → Bool, takes path = false →
      (files ++ [path]).any takes = files.any takes
        ∧ (files ++ [path]).filter takes = files.filter takes := by
    intro takes htakes
    simp [htakes]
  by_cases hsafety : s = .safety
  · subst hsafety
    refine ⟨?_, fun hne => absurd rfl hne⟩
    rw [findings_safety, findings_safety]
    by_cases hany : files.any Safety.isList = true
    · rw [if_pos hany, if_pos (by rw [List.any_append, hany, Bool.true_or])]
    · rw [if_neg hany]
      exact List.nil_sublist _
  · suffices heq : s.findings box tree (files ++ [path])
      = s.findings box tree files from
      ⟨heq ▸ List.Sublist.refl _, fun _ => heq⟩
    cases s with
    | bandit =>
        obtain ⟨hany, hfilter⟩ := hsame Bandit.takes hopens
        refine findings_congr hany ?_
        show Bandit.scan box tree (files ++ [path]) = Bandit.scan box tree files
        unfold Bandit.scan Bandit.scanBy
        rw [hfilter]
    | semgrep =>
        obtain ⟨hany, hfilter⟩ := hsame Semgrep.takes hopens
        refine findings_congr hany ?_
        show Semgrep.scan box tree (files ++ [path])
          = Semgrep.scan box tree files
        unfold Semgrep.scan Semgrep.scanBy
        rw [hfilter]
    | script =>
        obtain ⟨hany, hfilter⟩ := hsame ScriptScan.takes hopens
        refine findings_congr hany ?_
        have hscan : ScriptScan.scan tree (files ++ [path])
            = ScriptScan.scan tree files := by
          unfold ScriptScan.scan
          rw [hfilter]
        simp only [scanSafely, scan, hscan]
    | safety => exact absurd rfl hsafety
    | custom =>
        show findingsOf (CustomScan.scan tree (files ++ [path]))
          = findingsOf (CustomScan.scan tree files)
        rw [findingsOf_customScan, findingsOf_customScan, List.flatMap_append,
          List.flatMap_singleton, h, List.append_nil]

end Unreadable

end Scanner

namespace SecurityScan

-- ============================================================== groups

/-- The files of a group, in their plain form. -/
def filesIn (group : String) (paths : List String) : List String :=
  (paths.map Path.normal).filter fun p => groupOf p == group

theorem filesIn_append (group : String) (paths : List String) (path : String) :
    filesIn group (paths ++ [path])
      = filesIn group paths ++ if groupOf path = group then [Path.normal path]
        else [] := by
  unfold filesIn
  rw [List.map_append, List.filter_append, List.map_singleton,
    List.filter_singleton, groupOf_normal, Bool.cond_eq_ite]
  by_cases hgroup : groupOf path = group
  · rw [if_pos hgroup, if_pos (beq_iff_eq.2 hgroup)]
  · rw [if_neg hgroup, if_neg (mt beq_iff_eq.1 hgroup)]

/-- The findings of a scanner in the files of a group. -/
def foundBy (boxes : String → Toolbox) (tree : FileTree) (paths : List String)
    (group : String) (s : Scanner) : List Finding :=
  s.findings (boxes group) tree (filesIn group paths)

/-- What is gathered from the scanners that take files is gathered from all of
them, those that take none having nothing. -/
theorem findingsOf_groupReports (box : Toolbox) (tree : FileTree)
    (files : List String) :
    (groupReports box tree files).flatMap findingsOf
      = Scanner.all.flatMap fun s => s.findings box tree files := by
  unfold groupReports
  rw [List.flatMap_map]
  induction Scanner.all with
  | nil => rfl
  | cons s rest ih =>
      rw [List.filter_cons, List.flatMap_cons]
      unfold Scanner.findings
      by_cases hs : s.supports files = true
      · rw [if_pos hs, if_pos hs, List.flatMap_cons, ih]
        rfl
      · rw [if_neg hs, if_neg hs, List.nil_append, ih]
        rfl

/-- The findings of a scan are those of each scanner in each group. -/
theorem scanWith_eq_findings (boxes : String → Toolbox) (tree : FileTree)
    (paths : List String) :
    scanWith boxes tree paths
      = groupNames.flatMap fun group =>
        Scanner.all.flatMap (foundBy boxes tree paths group) := by
  unfold scanWith reports grouped
  rw [List.flatMap_assoc]
  simp only [findingsOf_groupReports]
  induction groupNames with
  | nil => rfl
  | cons group rest ih =>
      rw [List.map_cons, List.filter_cons, List.flatMap_cons]
      by_cases hfiles : filesIn group paths = []
      · have hnone : Scanner.all.flatMap (foundBy boxes tree paths group)
            = [] := by
          simp [foundBy, hfiles, Scanner.findings_nil]
        rw [if_neg (by simpa [filesIn] using hfiles), ih, hnone,
          List.nil_append]
      · rw [if_pos (by simpa [filesIn] using hfiles), List.flatMap_cons, ih]
        rfl

/-- The findings of one scanner are those it has in each group. -/
theorem filter_scanWith (boxes : String → Toolbox) (tree : FileTree)
    (paths : List String) (s : Scanner) :
    (scanWith boxes tree paths).filter (fun f => f.tool? == some s.name)
      = groupNames.flatMap fun group => foundBy boxes tree paths group s := by
  have hone : ∀ (group : String) (s' : Scanner),
      (foundBy boxes tree paths group s').filter (fun f =>
        f.tool? == some s.name)
        = if s' = s then foundBy boxes tree paths group s' else [] := by
    intro group s'
    by_cases hs : s' = s
    · rw [if_pos hs, List.filter_eq_self]
      intro f hf
      rw [Scanner.tool?_of_mem_findings hf, hs, beq_self_eq_true]
    · rw [if_neg hs, List.filter_eq_nil_iff]
      intro f hf
      rw [Scanner.tool?_of_mem_findings hf, beq_iff_eq, Option.some_inj]
      exact fun hname => hs (Scanner.name_inj _ _ hname)
  rw [scanWith_eq_findings, List.filter_flatMap]
  refine List.flatMap_congr fun group _ => ?_
  rw [List.filter_flatMap]
  simp only [hone]
  cases s <;> simp [Scanner.all]

/-- How many findings of a scan are those of one scanner. -/
theorem countP_scanWith (boxes : String → Toolbox) (tree : FileTree)
    (paths : List String) (s : Scanner) :
    (scanWith boxes tree paths).countP (fun f => f.tool? == some s.name)
      = (groupNames.map fun group =>
        (foundBy boxes tree paths group s).length).sum := by
  rw [List.countP_eq_length_filter, filter_scanWith, List.length_flatMap]

section Unreadable

variable {tree : FileTree} {path : String} {why : Fault}

/-- A file that cannot be read cannot be read under its plain form either. -/
theorem readText_normal_error (h : tree.readText path = .error why) :
    ∃ why, tree.readText (Path.normal path) = .error why := by
  cases hnormal : tree.readText (Path.normal path) with
  | error why' => exact ⟨why', rfl⟩
  | ok text =>
      rw [FileTree.readText_normal.1 hnormal] at h
      cases h

/-- The other groups do not notice a further file. -/
theorem foundBy_other (boxes : String → Toolbox) (tree : FileTree)
    (paths : List String) {path group : String} (hgroup : group ≠ groupOf path)
    (s : Scanner) :
    foundBy boxes tree (paths ++ [path]) group s
      = foundBy boxes tree paths group s := by
  unfold foundBy
  rw [filesIn_append, if_neg hgroup.symm, List.append_nil]

/-- The scanners that open a file that cannot be read find nothing in its
group. -/
theorem foundBy_of_opens (h : tree.readText path = .error why)
    (boxes : String → Toolbox) (paths : List String) {s : Scanner}
    (hopens : s.opens path = true) :
    foundBy boxes tree (paths ++ [path]) (groupOf path) s = [] := by
  obtain ⟨why', hnormal⟩ := readText_normal_error h
  unfold foundBy
  rw [filesIn_append, if_pos rfl]
  exact Scanner.findings_of_opens hnormal
    ((s.opens_normal path).trans hopens) _ _

/-- The other scanners find in the group of the file what they found before, or
more. -/
theorem foundBy_of_not_opens (h : tree.readText path = .error why)
    (boxes : String → Toolbox) (paths : List String) {s : Scanner}
    (hopens : s.opens path = false) :
    (foundBy boxes tree paths (groupOf path) s).Sublist
        (foundBy boxes tree (paths ++ [path]) (groupOf path) s)
      ∧ (s ≠ .safety → foundBy boxes tree (paths ++ [path]) (groupOf path) s
          = foundBy boxes tree paths (groupOf path) s) := by
  obtain ⟨why', hnormal⟩ := readText_normal_error h
  unfold foundBy
  rw [filesIn_append, if_pos rfl]
  exact Scanner.findings_of_not_opens hnormal
    ((s.opens_normal path).trans hopens) _ _

/-- If a scanner that opens the file had findings in its group, fewer findings
are its own. -/
theorem countP_lt_of_opens (h : tree.readText path = .error why)
    (boxes : String → Toolbox) (paths : List String) {s : Scanner}
    (hopens : s.opens path = true)
    (hfound : foundBy boxes tree paths (groupOf path) s ≠ []) :
    (scanWith boxes tree (paths ++ [path])).countP (fun f =>
      f.tool? == some s.name)
      < (scanWith boxes tree paths).countP (fun f =>
        f.tool? == some s.name) := by
  have hsilent := foundBy_of_opens h boxes paths hopens
  rw [countP_scanWith, countP_scanWith]
  refine List.sum_lt_sum _ _ (fun group _ => ?_) ⟨groupOf path,
    groupOf_mem path, ?_⟩
  · by_cases hgroup : group = groupOf path
    · rw [hgroup, hsilent]
      exact Nat.zero_le _
    · rw [foundBy_other boxes tree paths hgroup]
  · rw [hsilent]
    exact List.length_pos_iff.2 hfound

/-- If no scanner that opens the file had findings in its group, all findings
stay, and in their order. -/
theorem scanWith_sublist (h : tree.readText path = .error why)
    (boxes : String → Toolbox) (paths : List String)
    (hnone : ∀ s : Scanner, s.opens path = true →
      foundBy boxes tree paths (groupOf path) s = []) :
    (scanWith boxes tree paths).Sublist
      (scanWith boxes tree (paths ++ [path])) := by
  rw [scanWith_eq_findings, scanWith_eq_findings]
  refine List.Sublist.flatMap_right _ fun group _ =>
    List.Sublist.flatMap_right _ fun s _ => ?_
  by_cases hgroup : group = groupOf path
  · rw [hgroup]
    cases hopens : s.opens path with
    | true => exact (hnone s hopens).symm ▸ List.nil_sublist _
    | false => exact (foundBy_of_not_opens h boxes paths hopens).1
  · rw [foundBy_other boxes tree paths hgroup]

end Unreadable

/-- The findings of a scan are those of each scanner in each group. A further
file that cannot be read changes nothing in other groups; in its own, the
scanners that open it find nothing any more, and the others what they found
before, only the check of dependencies perhaps more. So findings are lost
exactly if a scanner that opens the file had some in its group. -/
theorem unreadable_silences_group (boxes : String → Toolbox) (tree : FileTree)
    (paths : List String) (path : String) (why : Fault)
    (h : tree.readText path = .error why) :
    let before := foundBy boxes tree paths
    let after := foundBy boxes tree (paths ++ [path])
    scanWith boxes tree paths
      = (groupNames.flatMap fun group => Scanner.all.flatMap (before group))
      ∧ scanWith boxes tree (paths ++ [path])
          = (groupNames.flatMap fun group => Scanner.all.flatMap (after group))
      ∧ (∀ group s, group ≠ groupOf path → after group s = before group s)
      ∧ (∀ s : Scanner, s.opens path = true → after (groupOf path) s = [])
      ∧ (∀ s : Scanner, s.opens path = false →
          (before (groupOf path) s).Sublist (after (groupOf path) s)
            ∧ (s ≠ .safety → after (groupOf path) s = before (groupOf path) s))
      ∧ ((scanWith boxes tree paths).Subperm
        (scanWith boxes tree (paths ++ [path])) ↔ ∀ s : Scanner,
        s.opens path = true → before (groupOf path) s = []) := by
  intro before after
  refine ⟨scanWith_eq_findings boxes tree paths,
    scanWith_eq_findings boxes tree _, fun group s hgroup =>
      foundBy_other boxes tree paths hgroup s,
    fun s hopens => foundBy_of_opens h boxes paths hopens,
    fun s hopens => foundBy_of_not_opens h boxes paths hopens, ?_, fun hnone =>
    (scanWith_sublist h boxes paths hnone).subperm⟩
  intro hsubperm s hopens
  by_contra hfound
  have hfewer := countP_lt_of_opens h boxes paths hopens hfound
  exact absurd (hsubperm.countP_le _) (Nat.not_le_of_lt hfewer)

/-- A folder with a marked script, and a script and a program that are no
text. -/
def garbledFolder : FileTree :=
  ((FileTree.empty.withFile "a.js" "eval(x)\n".toUTF8.toList).withFile "b.js"
    [0xFF]).withFile
    "b.py" [0xFF]

/-- A broken program takes away none of the findings in a script. -/
theorem unreadable_silences_group_program :
    (∃ why, garbledFolder.readText "b.py" = .error why) ∧
      Scanner.bandit.opens "b.py" = true ∧
      (scanWith (noTools "all") garbledFolder ["a.js"]).Subperm
        (scanWith (noTools "all") garbledFolder (["a.js"] ++ ["b.py"])) := by
  obtain ⟨why, hwhy⟩ : ∃ why, garbledFolder.readText "b.py"
      = .error why := ⟨_, rfl⟩
  obtain ⟨-, -, -, -, -, hiff⟩ :=
    unreadable_silences_group (noTools "all") garbledFolder ["a.js"]
    "b.py" why hwhy
  refine ⟨⟨why, hwhy⟩, by decide +kernel, hiff.2 fun s _ => ?_⟩
  have hfiles : filesIn (groupOf "b.py") ["a.js"] = [] := by decide +kernel
  unfold foundBy
  rw [hfiles]
  exact s.findings_nil _ _

/-- A broken script takes away a finding in another script. -/
theorem broken_script_hides_finding :
    ¬ (scanWith (noTools "all") garbledFolder ["a.js"]).Subperm
        (scanWith (noTools "all") garbledFolder (["a.js"] ++ ["b.js"])) := by
  obtain ⟨why, hwhy⟩ : ∃ why, garbledFolder.readText "b.js"
      = .error why := ⟨_, rfl⟩
  have hfound :
      foundBy (noTools "all") garbledFolder ["a.js"] (groupOf "b.js") .script
        ≠ [] :=
    List.isEmpty_eq_false_iff.1 (by decide +kernel)
  have hfewer :=
    countP_lt_of_opens (s := .script) hwhy (noTools "all") ["a.js"]
      (by decide +kernel) hfound
  exact fun hsubperm => absurd (hsubperm.countP_le _) (Nat.not_le_of_lt hfewer)

end SecurityScan

end SourceAudit
