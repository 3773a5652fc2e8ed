/-
Which line an issue of a script is about.

A text without a line feed that occurs in a script cannot lie across two of its
lines, so one of them has it (`exists_onLine`). The search goes through the
lines in order and gives the number of the first that does (`isLeast_lineOf`);
its answer for want of such a line is not needed. Scripts are searched only for
what has been seen to occur in them, so every issue has the number of the first
line that shows what it is about.
-/
import SourceAudit.Proofs.Audit.Findings
import SourceAudit.Proofs.Rule.LineNumbers
import SourceAudit.Scan.Custom
import Mathlib.Order.Bounds.Defs

namespace SourceAudit

-- =============================================================== lines

/-- What occurs in a text and has no line feed is on one of its lines. -/
theorem Text.exists_onLine {needle text : String}
    (hneedle : '\n' ∉ needle.toList) (h : contains needle text = true) :
    ∃ n, OnLine text n needle := by
  obtain ⟨before, after, htext⟩ := (occursIn_iff _ _).1 h
  have hstands : Stands (· == '\n') before needle.toList text.toList := by
    refine ⟨⟨after, htext⟩, fun c hc => ?_⟩
    simpa using ne_of_mem_of_not_mem hc hneedle
  obtain ⟨line, hline, hcontains⟩ := exists_line_of_stands hstands
  rw [String.ofList_toList] at hcontains
  exact ⟨before.count '\n' + 1, line, Nat.le_add_left 1 _, hline, hcontains⟩

namespace ScriptScan

/-- The number that is given is the least of those of the lines that show a
text, if any does. -/
theorem isLeast_lineOf {needle text : String}
    (h : ∃ n, Text.OnLine text n needle) :
    IsLeast {n | Text.OnLine text n needle} (lineOf needle text) := by
  unfold lineOf
  cases hfound : ((Text.splitOnChar '\n' text).zipIdx 1).find? fun l =>
      Text.contains needle l.1 with
  | none =>
      obtain ⟨n, line, -, hline, hcontains⟩ := h
      have hmem :
          (line, 1 + (n - 1)) ∈ (Text.splitOnChar '\n' text).zipIdx 1 := by
        refine List.mem_iff_getElem?.2 ⟨n - 1, ?_⟩
        rw [List.getElem?_zipIdx, hline]
        rfl
      exact absurd hcontains (List.find?_eq_none.1 hfound _ hmem)
  | some found =>
      obtain ⟨hcontains, i, hi, rfl, hbefore⟩ :=
        List.find?_eq_some_iff_getElem.1 hfound
      simp only [List.getElem_zipIdx] at hcontains hbefore ⊢
      rw [List.length_zipIdx] at hi
      refine ⟨⟨_, Nat.le_add_right 1 i, ?_, hcontains⟩, ?_⟩
      · rw [Option.elim_some, Nat.add_sub_cancel_left]
        exact List.getElem?_eq_getElem hi
      · -- a line further up that shows the text would have been met before
        rintro n ⟨line, hn, hline, hshows⟩
        obtain ⟨hlt, rfl⟩ := List.getElem?_eq_some_iff.1 hline
        by_contra hless
        have hearlier : n - 1 < i := by
          rw [Option.elim_some] at hless
          omega
        have hnot := hbefore (n - 1) hearlier
        rw [hshows] at hnot
        cases hnot

-- ============================================================== issues

/-- What scripts are searched for, by the rule that it breaks. -/
def searches : List (String × String) :=
  [("eslint_no_eval", "eval("), ("eslint_no_inner_html", "innerHTML")]

/-- An issue is about a text in a file, which a line with a number shows. -/
structure Points (issue : Value) (path needle : String) (number : Nat) :
    Prop where
  search : ∃ rule, (rule, needle) ∈ searches ∧
    issue.pick "rule_id" = .ok (.text rule)
  file : issue.pick "file_path" = .ok (.text path)
  line : issue.pick "line_number" = .ok (Value.ofNat number)

/-- An issue of a script is about something that occurs in it. -/
theorem points_of_mem_textIssues {path text : String} {issue : Value}
    (h : issue ∈ textIssues path text) :
    ∃ needle, Text.contains needle text = true ∧
      Points issue path needle (lineOf needle text) := by
  unfold textIssues at h
  rcases List.mem_append.1 h with h | h
  · split at h
    · rename_i hfound
      obtain rfl := List.mem_singleton.1 h
      exact ⟨"eval(", hfound, ⟨_, List.mem_cons_self, rfl⟩, rfl, rfl⟩
    · cases h
  · split at h
    · rename_i hfound
      obtain rfl := List.mem_singleton.1 h
      exact ⟨"innerHTML", (Bool.and_eq_true_iff.1 hfound).1,
        ⟨_, List.mem_cons_of_mem _ List.mem_cons_self, rfl⟩, rfl, rfl⟩
    · cases h

/-- An issue of a scan is one of a script that could be read. -/
theorem exists_script_of_mem_scan {tree : FileTree} {paths : List String}
    {report : ToolReport} (h : scan tree paths = .ok report) {issue : Value}
    (hissue : issue ∈ report.issues) :
    ∃ path ∈ paths, ∃ text, tree.readText path = .ok text ∧
      issue ∈ textIssues path text := by
  obtain ⟨found, hfound, hreport⟩ := Outcome.bind_eq_ok h
  obtain rfl := Except.ok.inj hreport
  obtain ⟨issues, hissues, hmem⟩ := List.mem_flatten.1 hissue
  obtain ⟨path, hpath, hstep⟩ := Outcome.exists_of_mem_mapM hfound hissues
  obtain ⟨text, htext, hlooked⟩ := Outcome.bind_eq_ok hstep
  obtain rfl := Except.ok.inj hlooked
  exact ⟨path, (List.mem_filter.1 hpath).1, text, htext, hmem⟩

theorem lineFeed_not_mem_searches : ∀ s ∈ searches, '\n' ∉ s.2.toList := by
  decide

/-- A text without a line feed that occurs in another is looked up at the first
line that has it, and there is one. So every issue of a scan has the number of
the first line of its script that shows what the issue is about. -/
theorem issues_at_first_lines :
    (∀ needle text : String, '\n' ∉ needle.toList →
      Text.contains needle text = true → IsLeast {n | Text.OnLine text n needle}
        (lineOf needle text)) ∧
    ∀ (tree : FileTree) (paths : List String) (report : ToolReport),
      scan tree paths = .ok report → ∀ issue ∈ report.issues,
        ∃ path ∈ paths, ∃ text, tree.readText path = .ok text ∧
          ∃ needle number, Points issue path needle number ∧
            IsLeast {n | Text.OnLine text n needle} number := by
  have hfirst : ∀ needle text : String, '\n' ∉ needle.toList →
      Text.contains needle text = true →
      IsLeast {n | Text.OnLine text n needle} (lineOf needle text) :=
        fun needle text hneedle h =>
    isLeast_lineOf (Text.exists_onLine hneedle h)
  refine ⟨hfirst, fun tree paths report hscan issue hissue => ?_⟩
  obtain ⟨path, hpath, text, htext, hmem⟩ :=
    exists_script_of_mem_scan hscan hissue
  obtain ⟨needle, hfound, hpoints⟩ := points_of_mem_textIssues hmem
  obtain ⟨rule, hsearch, -⟩ := hpoints.search
  exact ⟨path, hpath, text, htext, needle, _, hpoints,
    hfirst needle text (lineFeed_not_mem_searches _ hsearch) hfound⟩

/-- A folder with a script whose second line is one to report. -/
def evaluating : FileTree :=
  FileTree.empty.withFile "a.js" [0x0A, 0x65, 0x76, 0x61, 0x6C, 0x28]

/-- The first line of the script does not show what is reported, so the number
is not the one that is given for want of a line. -/
theorem issues_at_first_lines_second :
    ('\n' ∉ "eval(".toList ∧ Text.contains "eval(" "\neval(" = true ∧
      lineOf "eval(" "\neval(" = 2 ∧
      IsLeast {n | Text.OnLine "\neval(" n "eval("} 2) ∧
    ∃ report issue, scan evaluating ["a.js"] = .ok report ∧
      issue ∈ report.issues ∧
      ∃ path ∈ ["a.js"], ∃ text, evaluating.readText path = .ok text ∧
        ∃ needle number, Points issue path needle number ∧
          IsLeast {n | Text.OnLine text n needle} number := by
  have hneedle : '\n' ∉ "eval(".toList := by decide
  have hfound : Text.contains "eval(" "\neval(" = true := by decide
  have hline : lineOf "eval(" "\neval(" = 2 := by decide
  have hscan : ∃ report issue, scan evaluating ["a.js"] = .ok report ∧
      issue ∈ report.issues :=
    ⟨_, _, rfl, List.mem_cons_self⟩
  obtain ⟨report, issue, hreport, hissue⟩ := hscan
  exact ⟨⟨hneedle, hfound, hline,
    hline ▸ issues_at_first_lines.1 _ _ hneedle hfound⟩, report, issue, hreport,
    hissue, issues_at_first_lines.2 _ _ _ hreport _ hissue⟩

end ScriptScan

end SourceAudit
