/-
Scanning many files is scanning each of them.

The line patterns are one scanner of several, and a scan takes its files group
by group. What a finding says about the tool it comes from is the name of the
scanner that reported it, whatever outside programs answered
(`tool_scanSafely`), so the findings of the patterns in a group are those of
that scanner alone (`ofPatterns_group`). It reads one file at a time, and the
findings in a file are the marked lines of its text (`marked`). The groups share
out the files, none lost and none twice (`batchOrder_perm`).
-/
import SourceAudit.Proofs.Entries
import SourceAudit.Proofs.FileTree
import SourceAudit.Scan.Security
import Mathlib.Data.Prod.Basic

namespace SourceAudit

/-- The tool that a finding says it comes from. -/
def Finding.tool? (f : Finding) : Option String :=
  (f.metadata.get? "tool").bind Value.asText?

-- ======================================================== marked lines

namespace CustomScan

/-- The finding of a marked line. -/
def Mark.finding (m : Mark) (path : String) (number : Nat) (line : String) :
    Finding where
  rule := .text m.id
  severity := SecurityScan.severityOf m.severity
  category := .text "security"
  message := .text m.message
  file := .text path
  line := Value.ofNat number
  column := .null
  snippet := .text (Text.trim line)
  remediation := .text m.remediation
  confidence := .real 0.8
  metadata :=
    .record [("tool", .text "custom_rules"),
      ("original_data", m.issue path number line)]
  standards := none
  frameworks := none

/-- The pairs of a numbered line and a pattern that occurs in it, by lines and
then by patterns. -/
def pairs (text : String) : List ((String × Nat) × Mark) :=
  (((Text.splitOnChar '\n' text).zipIdx 1).product marks).filter fun (l, m) =>
    m.pattern.occursIn l.1

/-- The findings in a file with a text. -/
def marked (path text : String) : List Finding :=
  (pairs text).map fun (l, m) => m.finding path l.2 l.1

/-- The findings in a file; one that cannot be read as text has none. -/
def markedAt (tree : FileTree) (path : String) : List Finding :=
  match tree.readText path with
  | .ok text => marked (Path.normal path) text
  | .error _ => []

theorem markedAt_of_readText {tree : FileTree} {path text : String}
    (h : tree.readText path = .ok text) :
    markedAt tree path = marked (Path.normal path) text := by
  unfold markedAt
  rw [h]

theorem markedAt_of_unreadable {tree : FileTree} {path : String} {why : Fault}
    (h : tree.readText path = .error why) : markedAt tree path = [] := by
  unfold markedAt
  rw [h]

/-- The issues of a text are those of its pairs. -/
theorem textIssues_eq_map_pairs (path text : String) :
    textIssues path text = (pairs text).map fun (l, m) =>
      m.issue path l.2 l.1 := by
  unfold textIssues lineIssues pairs
  rw [List.product, List.filter_flatMap, List.map_flatMap]
  refine List.flatMap_congr fun l _ => ?_
  rw [List.filter_map, List.map_map]
  rfl

/-- An issue of a pattern loses nothing on its way to a finding. -/
theorem findingsOf_textIssues (path text : String) :
    (textIssues path text).filterMap (SecurityScan.findingOf? · "custom_rules")
      = marked path text := by
  rw [textIssues_eq_map_pairs, List.filterMap_map, marked,
    ← List.filterMap_eq_map]
  rfl

end CustomScan

namespace FileTree

/-- A path and its plain form can be read as the same text, or neither can. -/
theorem readText_normal {t : FileTree} {path text : String} :
    t.readText (Path.normal path) = .ok text ↔ t.readText path = .ok text := by
  have hread : ∀ bytes, t.read (Path.normal path) = .ok bytes ↔
      t.read path = .ok bytes := by
    simp [read_eq_ok_iff]
  unfold readText
  cases hnormal : t.read (Path.normal path) with
  | ok bytes => rw [(hread bytes).1 hnormal]
  | error why =>
      cases hpath : t.read path with
      | ok bytes => simp [(hread bytes).2 hpath] at hnormal
      | error why => simp [bind, Except.bind]

end FileTree

-- =========================================================== reporters

namespace ToolReport

/-- A computation that can only end with a report of a tool. -/
def Names (tool : String) (x : Outcome ToolReport) : Prop :=
  ∀ report, x = .ok report → report.tool = tool

theorem names_pure {tool : String} {report : ToolReport}
    (h : report.tool = tool) : Names tool (pure report) := by
  intro other heq
  obtain rfl := Except.ok.inj heq
  exact h

theorem names_bind {α : Type} {tool : String} {x : Outcome α}
    {f : α → Outcome ToolReport} (h : ∀ a, Names tool (f a)) :
    Names tool (x >>= f) := by
  intro report heq
  cases x with
  | error why => simp [bind, Except.bind] at heq
  | ok a => exact h a report heq

/-- A failure is reported in the tool's name as well. -/
theorem tool_ofOutcome {tool title : String} {x : Outcome ToolReport}
    (h : Names tool x) : (ofOutcome tool title x).tool = tool := by
  unfold ofOutcome
  split
  · exact h _ rfl
  · rfl
  · rfl

end ToolReport

open ToolReport in
/-- A check of dependencies can only end with a report of its own. -/
theorem Safety.names_check
    (files : List (String × Outcome (Int × String × String))) :
    Names "safety" (check files).2 := by
  induction files with
  | nil => exact names_pure rfl
  | cons file rest ih =>
      obtain ⟨path, run⟩ := file
      unfold check
      split
      · refine names_bind fun (code, out, err) => ?_
        dsimp only [reported]
        split
        · split
          · exact names_bind fun _ => names_pure rfl
          · exact names_pure rfl
        · exact names_pure rfl
      · exact ih

namespace Scanner

open ToolReport in
/-- A report is in the name of the scanner that made it, whatever programs
answer. -/
theorem tool_scanSafely (s : Scanner) (box : Toolbox) (tree : FileTree)
    (paths : List String) : (s.scanSafely box tree paths).tool = s.name := by
  unfold scanSafely
  cases s with
  | bandit =>
      simp only [scan, Bandit.scan, Bandit.scanBy]
      split
      · rfl
      · refine tool_ofOutcome (names_bind fun _ =>
          names_bind fun (code, out, err) => ?_)
        dsimp only [Bandit.reported]
        split
        · exact names_bind fun _ => names_bind fun _ => names_bind fun _ =>
            names_pure rfl
        · exact names_pure rfl
  | semgrep =>
      refine tool_ofOutcome (names_bind fun _ =>
        names_bind fun (code, out, err) => ?_)
      dsimp only [Semgrep.reported]
      split
      · exact names_bind fun _ => names_bind fun _ => names_pure rfl
      · exact names_pure rfl
  | script =>
      have hnames : Names "eslint_security" (ScriptScan.scan tree paths) :=
        names_bind fun _ => names_pure rfl
      cases hscan : ScriptScan.scan tree paths with
      | ok report =>
          simp only [scan, hscan]
          exact hnames report hscan
      | error why => simp only [scan, hscan, trouble]
  | safety =>
      simp only [scan, Safety.scan, Safety.scanEach]
      split
      · rfl
      · exact tool_ofOutcome (Safety.names_check _)
  | custom => rfl

end Scanner

namespace SecurityScan

-- =========================================================== one group

/-- The findings that the line patterns are named as the tool of. -/
def ofPatterns (findings : List Finding) : List Finding :=
  findings.filter fun f => f.tool? == some "custom_rules"

theorem ofPatterns_flatMap {α : Type} (xs : List α) (f : α → List Finding) :
    ofPatterns (xs.flatMap f) = xs.flatMap fun x => ofPatterns (f x) :=
  List.filter_flatMap

/-- A finding keeps the name of the tool that reported it. -/
theorem tool?_of_findingOf? {issue : Value} {tool : String} {f : Finding}
    (h : findingOf? issue tool = some f) : f.tool? = some tool := by
  unfold findingOf? at h
  split at h
  · obtain ⟨word, -, rfl⟩ := Option.map_eq_some_iff.1 h
    rfl
  · simp at h

theorem tool?_of_mem_findingsOf {report : ToolReport} {f : Finding}
    (h : f ∈ findingsOf report) : f.tool? = some report.tool := by
  obtain ⟨issue, -, hf⟩ := List.mem_filterMap.1 h
  exact tool?_of_findingOf? hf

theorem ofPatterns_other {report : ToolReport}
    (h : report.tool ≠ "custom_rules") :
    ofPatterns (findingsOf report) = [] := by
  refine List.filter_eq_nil_iff.2 fun f hf => ?_
  simpa [tool?_of_mem_findingsOf hf] using h

theorem ofPatterns_own {report : ToolReport}
    (h : report.tool = "custom_rules") :
    ofPatterns (findingsOf report) = findingsOf report := by
  refine List.filter_eq_self.2 fun f hf => ?_
  simp [tool?_of_mem_findingsOf hf, h]

/-- Of the scanners that take a group only the last makes findings in the name
of the line patterns. -/
theorem ofPatterns_group (box : Toolbox) (tree : FileTree)
    (files : List String) :
    ofPatterns ((groupReports box tree files).flatMap findingsOf)
      = findingsOf (CustomScan.scan tree files) := by
  have hreports : groupReports box tree files
      = (([.bandit, .semgrep, .script, .safety] : List Scanner).filter
          fun s => s.supports files).map (fun s => s.scanSafely box tree files)
        ++ [CustomScan.scan tree files] := by
    unfold groupReports
    rw [show Scanner.all = [.bandit, .semgrep, .script, .safety] ++
      [.custom] from rfl, List.filter_append, List.map_append]
    rfl
  have hown : ofPatterns (findingsOf (CustomScan.scan tree files))
      = findingsOf (CustomScan.scan tree files) := ofPatterns_own rfl
  rw [ofPatterns_flatMap, hreports, List.flatMap_append,
    List.flatMap_singleton, hown, List.append_left_eq_self,
    List.flatMap_eq_nil_iff]
  intro report hreport
  obtain ⟨s, hs, rfl⟩ := List.mem_map.1 hreport
  have hnames : ∀ s ∈ [Scanner.bandit, .semgrep, .script, .safety],
      s.name ≠ "custom_rules" := by
    decide
  refine ofPatterns_other ?_
  rw [Scanner.tool_scanSafely]
  exact hnames s (List.mem_filter.1 hs).1

/-- The files of a group are read one after another. -/
theorem findingsOf_customScan (tree : FileTree) (files : List String) :
    findingsOf (CustomScan.scan tree files) = files.flatMap fun path =>
      match tree.readText path with
      | .ok text => CustomScan.marked path text
      | .error _ => [] := by
  unfold findingsOf CustomScan.scan ToolReport.found
  rw [List.filterMap_flatMap]
  refine List.flatMap_congr fun path _ => ?_
  cases tree.readText path with
  | error why => rfl
  | ok text => exact CustomScan.findingsOf_textIssues path text

-- ============================================================== groups

/-- The files in the order in which their groups are scanned. -/
def batchOrder (paths : List String) : List String :=
  groupNames.flatMap fun g => paths.filter fun p => groupOf p == g

theorem groupOf_mem (path : String) : groupOf path ∈ groupNames := by
  unfold groupOf groupNames
  cases hfound : groups.find? fun g =>
    g.2.contains (Text.lower (Path.ending path)) with
  | none => exact List.mem_append_right _ List.mem_cons_self
  | some g =>
      exact List.mem_append_left _
        (List.mem_map_of_mem (List.mem_of_find?_eq_some hfound))

@[simp] theorem groupOf_normal (path : String) : groupOf (Path.normal path)
    = groupOf path := by
  simp [groupOf]

/-- Every file is in exactly one group. -/
theorem batchOrder_perm (paths : List String) :
    (batchOrder paths).Perm paths := by
  have hnodup : groupNames.Nodup := by decide
  have hperm := Entries.perm_filter_of_keys hnodup groupOf paths
  rwa [List.filter_eq_self.2 fun p _ => by simp [groupOf_mem]] at hperm

theorem batchOrder_singleton (path : String) : batchOrder [path] = [path] :=
  List.perm_singleton.1 (batchOrder_perm [path])

/-- Groups without files make no difference to what is gathered from files. -/
theorem flatMap_grouped {β : Type} (paths : List String) (f : String → List β) :
    ((grouped paths).flatMap fun g => g.2.flatMap f)
      = (batchOrder paths).flatMap f := by
  unfold grouped batchOrder
  rw [List.flatMap_assoc]
  induction groupNames with
  | nil => rfl
  | cons g gs ih =>
      rw [List.map_cons, List.filter_cons]
      split
      · rw [List.flatMap_cons, ih, List.flatMap_cons]
      · rename_i hempty
        rw [ih, List.flatMap_cons]
        simp_all

theorem batchOrder_map_normal (paths : List String) :
    batchOrder (paths.map Path.normal)
      = (batchOrder paths).map Path.normal := by
  unfold batchOrder
  rw [List.map_flatMap]
  refine List.flatMap_congr fun g _ => ?_
  rw [List.filter_map]
  simp [Function.comp_def]

-- =============================================================== batch

/-- What the line patterns find in files, group by group and file by file. -/
theorem ofPatterns_scanWith (boxes : String → Toolbox) (tree : FileTree)
    (paths : List String) :
    ofPatterns (scanWith boxes tree paths)
      = (batchOrder paths).flatMap (CustomScan.markedAt tree) := by
  have hgroups : ofPatterns (scanWith boxes tree paths)
      = (grouped (paths.map Path.normal)).flatMap fun g =>
          findingsOf (CustomScan.scan tree g.2) := by
    unfold scanWith reports
    rw [List.flatMap_assoc, ofPatterns_flatMap]
    exact List.flatMap_congr fun g _ => ofPatterns_group (boxes g.1) tree g.2
  rw [hgroups]
  simp only [findingsOf_customScan]
  rw [flatMap_grouped, batchOrder_map_normal, List.flatMap_map]
  refine List.flatMap_congr fun path _ => ?_
  cases hread : tree.readText path with
  | ok text =>
      rw [FileTree.readText_normal.2 hread,
        CustomScan.markedAt_of_readText hread]
  | error why =>
      rw [CustomScan.markedAt_of_unreadable hread]
      cases hnormal : tree.readText (Path.normal path) with
      | ok text => simp [FileTree.readText_normal.1 hnormal] at hread
      | error why => rfl

/-- The line patterns find in several files what they find in each of them
alone, the files taken group by group and in their order within a group,
whatever the outside programs answer for the whole batch or for one file. In a
file that can be read as text they find one thing for each pair of a line and a
pattern that occurs in it, in any case of letters, and in other files nothing.
Each file is taken as often as it is given, and giving the files in another
order gives the findings in another order. -/
theorem patterns_batch_agrees (boxes : String → Toolbox)
    (alone : String → String → Toolbox) (tree : FileTree)
    (paths : List String) :
    ofPatterns (scanWith boxes tree paths)
        = ((batchOrder paths).flatMap fun path =>
            ofPatterns (scanWith (alone path) tree [path])) ∧
      (∀ path text, tree.readText path = .ok text →
        ofPatterns (scanWith (alone path) tree [path])
          = CustomScan.marked (Path.normal path) text) ∧
      (∀ path why, tree.readText path = .error why →
        ofPatterns (scanWith (alone path) tree [path]) = []) ∧
      (∀ m ∈ CustomScan.marks, m.pattern.ignoreCase = true) ∧
      (∀ path, (batchOrder paths).count path = paths.count path) ∧
      ∀ otherBoxes others, others.Perm paths →
        (ofPatterns (scanWith otherBoxes tree others)).Perm
          (ofPatterns (scanWith boxes tree paths)) := by
  have hone : ∀ path, ofPatterns (scanWith (alone path) tree [path])
      = CustomScan.markedAt tree path := by
    intro path
    rw [ofPatterns_scanWith, batchOrder_singleton, List.flatMap_singleton]
  refine ⟨?_, ?_, ?_, ?_, ?_, ?_⟩
  · simp only [hone]
    exact ofPatterns_scanWith boxes tree paths
  · intro path text hread
    rw [hone, CustomScan.markedAt_of_readText hread]
  · intro path why hread
    rw [hone, CustomScan.markedAt_of_unreadable hread]
  · unfold CustomScan.marks
    simp [Pattern.ofIgnoringCase]
  · exact fun path => (batchOrder_perm paths).count_eq path
  · intro otherBoxes others hperm
    rw [ofPatterns_scanWith, ofPatterns_scanWith]
    have horder : (batchOrder others).Perm (batchOrder paths) :=
      (batchOrder_perm others).trans (hperm.trans (batchOrder_perm paths).symm)
    exact horder.flatMap_right _

/-- A folder with a marked script, a marked program and a file that is no
text. -/
def markedFolder : FileTree :=
  ((FileTree.empty.withFile "a.js" [0x0A, 0x43, 0x4F, 0x52, 0x53, 0x28,
    0x29]).withFile "b.PY" [0x63, 0x6F, 0x72, 0x73, 0x28,
    0x29]).withFile "c.js" [0xFF]

/-- Nothing is installed, whichever scan asks for it. -/
def noTools (_scan _group : String) : Toolbox := []

/-- The program comes before the scripts, the script that is given twice is read
twice, and its second line is marked although its letters are capitals. -/
theorem patterns_batch_agrees_marked :
    ["b.PY", "c.js", "a.js", "a.js"].Perm ["a.js", "c.js", "b.PY", "a.js"] ∧
      ofPatterns (scanWith (noTools "all") markedFolder ["a.js", "c.js",
        "b.PY", "a.js"])
        = CustomScan.marked "b.PY" "cors()" ++
          (CustomScan.marked "a.js" "\nCORS()" ++
            CustomScan.marked "a.js" "\nCORS()") ∧
      (∃ m ∈ CustomScan.marks, m.id = "permissive_cors" ∧
        m.finding "a.js" 2 "CORS()" ∈ CustomScan.marked "a.js" "\nCORS()") ∧
      (ofPatterns (scanWith (noTools "all") markedFolder ["b.PY", "c.js",
        "a.js", "a.js"])).Perm
        (ofPatterns (scanWith (noTools "all") markedFolder ["a.js", "c.js",
          "b.PY", "a.js"])) := by
  have hperm : ["b.PY", "c.js", "a.js", "a.js"].Perm ["a.js", "c.js", "b.PY",
      "a.js"] := by
    decide
  obtain ⟨hbatch, hread, hbroken, -, -, hothers⟩ :=
    patterns_batch_agrees (noTools "all")
    noTools markedFolder ["a.js", "c.js", "b.PY", "a.js"]
  refine ⟨hperm, ?_, ?_, hothers _ _ hperm⟩
  · have horder :
        batchOrder ["a.js", "c.js", "b.PY", "a.js"]
          = ["b.PY", "a.js", "c.js", "a.js"] := by
      decide +kernel
    have hscript : markedFolder.readText "a.js" = .ok "\nCORS()" := rfl
    have hprogram : markedFolder.readText "b.PY" = .ok "cors()" := rfl
    obtain ⟨why, hnoText⟩ : ∃ why, markedFolder.readText "c.js"
        = .error why := ⟨_, rfl⟩
    have hplain : Path.normal "a.js" = "a.js" ∧
        Path.normal "b.PY" = "b.PY" := by decide +kernel
    rw [hbatch, horder, List.flatMap_cons, List.flatMap_cons, List.flatMap_cons,
      List.flatMap_singleton, hread _ _ hscript, hread _ _ hprogram,
      hbroken _ _ hnoText, hplain.1, hplain.2, List.nil_append]
  · obtain ⟨m, hm, hid, hpattern⟩ : ∃ m ∈ CustomScan.marks,
      m.id = "permissive_cors" ∧
        m.pattern = .ofIgnoringCase r"cors\(\)" :=
      ⟨_, List.getElem_mem (by decide : 7 < CustomScan.marks.length), rfl, rfl⟩
    have hpair : (("CORS()", 2), m) ∈ CustomScan.pairs "\nCORS()" := by
      refine List.mem_filter.2
        ⟨List.pair_mem_product.2 ⟨by decide +kernel, hm⟩, ?_⟩
      simp only [hpattern]
      decide +kernel
    exact ⟨m, hm, hid, List.mem_map.2 ⟨_, hpair, rfl⟩⟩

end SecurityScan

end SourceAudit
