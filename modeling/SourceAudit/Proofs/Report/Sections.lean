/-
The findings in the report for a terminal.

The report goes through the levels from the most severe to the least and shows
the findings of each under a heading, if there are any (`findings_eq`). The
lines it shows can be told apart by how they start: the headings are those of
the levels that have findings, each with its count
(`filter_isHeading_findings`), and there is one entry for each finding, level
by level (`filter_isEntry_findings`). These are the findings that the results
keep for each level, and the counts are those that the results tell.

A terminal reads marks in what it is given, and in what the findings say there
may be marks it refuses. Then the report ends right before the line that holds
them (`console_of_refused`). If no text of the findings has an opening bracket
nothing is refused (`refusal?_of_mem_findings`).
-/
import SourceAudit.Proofs.Finding.Levels
import SourceAudit.Proofs.Report.Marks

namespace SourceAudit.Report

/-- The levels from the most severe to the least. -/
def worstFirst : List Severity :=
  [.critical, .high, .medium, .low]

theorem nodup_worstFirst : worstFirst.Nodup := by decide

theorem mem_worstFirst (level : Severity) : level ∈ worstFirst := by
  cases level <;> decide

/-- The heading of the findings of a level, with a count of them. -/
def heading (level : Severity) (count : Value) : Display :=
  .line ("\n[bold " ++ colour level ++ "]" ++ Text.upper level.name ++
    " SEVERITY ISSUES (" ++ count.shown ++ ")[/bold " ++ colour level ++ "]")

/-- The line that names a finding by its rule and its place. -/
def entry (f : Finding) : Display :=
  .line ("[" ++ colour f.severity ++ "]●[/" ++ colour f.severity ++ "] " ++
    f.rule.shown ++ " - " ++ location f)

/-- A text under its title, if there is one. -/
def noted (holds : Bool) (title text : String) : List (String × String) :=
  if holds then [(title, text)] else []

/-- What can be told of a finding on request, each under its title. -/
def details (f : Finding) : List (String × String) :=
  let standards := standardNames (f.standards.getD [])
  let compliance := f.frameworks.getD []
  noted f.snippet.isTruthy "Code" f.snippet.shown ++
  noted f.remediation.isTruthy "Fix" f.remediation.shown ++
  noted (!standards.isEmpty) "Standards" (someOf 3 standards) ++
  noted (!compliance.isEmpty) "Compliance" (someOf 2 compliance)

/-- A detail under its title. -/
def detail (d : String × String) : Display :=
  .line ("  [dim]" ++ d.1 ++ ":[/dim] " ++ d.2)

/-- What a finding is shown by: its entry, its message and, on request, its
details. -/
def told (verbose : Bool) (f : Finding) : List Display :=
  entry f :: .line ("  " ++ f.message.shown) ::
    ((if verbose then details f else []).map detail ++ [.blank])

/-- Whether a line starts with a character. -/
def Display.startsWith (c : Char) : Display → Bool
  | .line text => text.toList.head? == some c
  | _ => false

/-- Whether something that is shown is a heading: it starts a new line before
it says anything. -/
abbrev Display.isHeading : Display → Bool := Display.startsWith '\n'

/-- Whether something that is shown is the entry of a finding: it starts with a
mark. -/
abbrev Display.isEntry : Display → Bool := Display.startsWith '['

/-- The findings from the most severe level to the least. -/
def bySeverity (found : List Finding) : List Finding :=
  worstFirst.flatMap fun level => ofSeverity level found

/-- The levels that have findings, from the most severe to the least. -/
def levelsIn (found : List Finding) : List Severity :=
  worstFirst.filter fun level => !(ofSeverity level found).isEmpty

-- ============================================================ findings

section Findings

variable (verbose : Bool) (found : List Finding)

theorem map_detail_noted (holds : Bool) (title text : String) :
    (noted holds title text).map detail
      = if holds then [.line ("  [dim]" ++ title ++ ":[/dim] " ++ text)]
        else [] := by
  cases holds <;> rfl

theorem finding_eq_told (f : Finding) : finding verbose f = told verbose f := by
  unfold finding told
  cases verbose with
  | false => simp [entry]
  | true =>
      simp only [if_true, Bool.and_true, details, List.map_append,
        map_detail_noted]
      rfl

/-- Beside its entry nothing that a finding is shown by starts as an entry or
a heading. -/
theorem startsWith_of_mem_tail {verbose : Bool} {f : Finding} {d : Display}
    (h : d ∈ (told verbose f).tail) {c : Char} (hc : c ≠ ' ') :
    d.startsWith c = false := by
  have hline (text : String) :
      (Display.line ("  " ++ text)).startsWith c = false := by
    simp [Display.startsWith, String.toList_append, hc.symm]
  rw [told, List.tail_cons, List.mem_cons, List.mem_append, List.mem_map,
    List.mem_singleton] at h
  rcases h with rfl | ⟨⟨title, text⟩, -, rfl⟩ | rfl
  · exact hline _
  · simp [detail, Display.startsWith, String.toList_append, hc.symm]
  · rfl

theorem startsWith_entry (f : Finding) (c : Char) :
    (entry f).startsWith c = ('[' == c) := by
  simp [entry, Display.startsWith, String.toList_append]

theorem startsWith_heading (level : Severity) (count : Value) (c : Char) :
    (heading level count).startsWith c = ('\n' == c) := by
  simp [heading, Display.startsWith, String.toList_append]

/-- Of what a finding is shown by just its entry is one. -/
theorem filter_isEntry_told (f : Finding) :
    (told verbose f).filter Display.isEntry = [entry f] := by
  have htail : (told verbose f).tail.filter Display.isEntry = [] := by
    rw [List.filter_eq_nil_iff]
    intro d hd
    rw [Display.isEntry, startsWith_of_mem_tail hd (by decide)]
    exact Bool.false_ne_true
  have hcons : told verbose f = entry f :: (told verbose f).tail := rfl
  rw [hcons, List.filter_cons_of_pos (startsWith_entry f _), htail]

theorem isHeading_of_mem_told {verbose : Bool} {f : Finding} {d : Display}
    (h : d ∈ told verbose f) : d.isHeading = false := by
  have hcons : told verbose f = entry f :: (told verbose f).tail := rfl
  rw [hcons, List.mem_cons] at h
  rcases h with rfl | htail
  · exact startsWith_entry f _
  · exact startsWith_of_mem_tail htail (by decide)

theorem isHeading_of_mem_flatMap {verbose : Bool} {found : List Finding}
    {d : Display} (h : d ∈ found.flatMap (told verbose)) :
    d.isHeading = false := by
  obtain ⟨f, -, hf⟩ := List.mem_flatMap.1 h
  exact isHeading_of_mem_told hf

/-- What is shown for the findings of a level, under its heading. -/
def levelSection (level : Severity) : List Display :=
  heading level (Value.ofNat (ofSeverity level found).length) ::
    (ofSeverity level found).flatMap (told verbose)

theorem findingsOf_eq (level : Severity) :
    findingsOf verbose found level
      = if (ofSeverity level found).isEmpty then []
        else levelSection verbose found level := by
  have htold : finding verbose = told verbose :=
    funext fun f => finding_eq_told verbose f
  rw [findingsOf, htold]
  rfl

/-- Levels without findings are passed over. -/
theorem findings_eq :
    findings verbose found
      = (levelsIn found).flatMap (levelSection verbose found) := by
  have hlevels (levels : List Severity) :
      levels.flatMap (findingsOf verbose found)
        = (levels.filter fun level => !(ofSeverity level found).isEmpty).flatMap
            (levelSection verbose found) := by
    induction levels with
    | nil => rfl
    | cons level levels ih =>
        rw [List.flatMap_cons, findingsOf_eq, ih, List.filter_cons]
        cases (ofSeverity level found).isEmpty with
        | true => rfl
        | false => rfl
  exact hlevels worstFirst

theorem filter_isHeading_levelSection (level : Severity) :
    (levelSection verbose found level).filter Display.isHeading
      = [heading level (Value.ofNat (ofSeverity level found).length)] := by
  have hnone : ((ofSeverity level found).flatMap (told verbose)).filter
      Display.isHeading = [] := by
    rw [List.filter_eq_nil_iff]
    intro d hd
    rw [isHeading_of_mem_flatMap hd]
    exact Bool.false_ne_true
  rw [levelSection, List.filter_cons_of_pos (startsWith_heading _ _ _), hnone]

/-- The headings are those of the levels that have findings, each with its
count. -/
theorem filter_isHeading_findings :
    (findings verbose found).filter Display.isHeading
      = (levelsIn found).map fun level =>
          heading level (Value.ofNat (ofSeverity level found).length) := by
  rw [findings_eq, List.filter_flatMap, List.map_eq_flatMap]
  exact List.flatMap_congr fun level _ =>
    filter_isHeading_levelSection verbose found level

/-- There is one entry for each finding, level by level. -/
theorem filter_isEntry_findings :
    (findings verbose found).filter Display.isEntry
      = (bySeverity found).map entry := by
  have hlevel (level : Severity) :
      (findingsOf verbose found level).filter Display.isEntry
        = (ofSeverity level found).map entry := by
    rw [findingsOf_eq]
    split
    · rename_i hempty
      rw [List.isEmpty_iff.1 hempty]
      rfl
    · rw [levelSection,
        List.filter_cons_of_neg (by simp [startsWith_heading]),
        List.filter_flatMap, List.map_eq_flatMap]
      exact List.flatMap_congr fun f _ => filter_isEntry_told verbose f
  have hall : findings verbose found
      = worstFirst.flatMap (findingsOf verbose found) := rfl
  rw [hall, List.filter_flatMap, bySeverity, List.map_flatMap]
  exact List.flatMap_congr fun level _ => hlevel level

end Findings

-- ============================================================== report

section Report

variable {refusal? : Display → Option Fault}

/-- What is not refused is shown as it is. -/
theorem showUpTo_eq_self {shown : List Display}
    (h : ∀ d ∈ shown, refusal? d = none) :
    showUpTo refusal? shown = (shown, none) := by
  induction shown with
  | nil => rfl
  | cons d shown ih =>
      obtain ⟨hd, hshown⟩ := List.forall_mem_cons.1 h
      rw [showUpTo, hd, ih hshown]
      rfl

/-- The first thing that is refused ends what is shown. -/
theorem showUpTo_of_refused {before after : List Display} {d : Display}
    {fault : Fault} (hbefore : ∀ d ∈ before, refusal? d = none)
    (hd : refusal? d = some fault) :
    showUpTo refusal? (before ++ d :: after) = (before, some fault) := by
  induction before with
  | nil => rw [List.nil_append, showUpTo, hd]
  | cons first before ih =>
      obtain ⟨hfirst, hrest⟩ := List.forall_mem_cons.1 hbefore
      rw [List.cons_append, showUpTo, hfirst, ih hrest]
      rfl

/-- Sections that can all be shown are followed by what comes after them. -/
theorem showSections_append {first rest : List (Outcome (List Display))}
    (h : (showSections refusal? first).2 = none) :
    showSections refusal? (first ++ rest)
      = ((showSections refusal? first).1 ++ (showSections refusal? rest).1,
        (showSections refusal? rest).2) := by
  induction first with
  | nil => rfl
  | cons section? first ih =>
      cases section? with
      | error fault => cases h
      | ok shown =>
          rw [showSections] at h
          rw [List.cons_append, showSections, showSections]
          generalize showUpTo refusal? shown = upTo at h ⊢
          obtain ⟨shown, fault | _⟩ := upTo
          · rw [ih h]
            simp [Prod.map]
          · cases h

/-- The sections that come before the findings. -/
def overview (r : ReportData) : List (Outcome (List Display)) :=
  [frameworks r.frameworks, do totals (← r.theTotals)]

/-- The sections that come after the findings. -/
def closing (r : ReportData) : List (Outcome (List Display)) :=
  [.ok (errors r.errors), compliance r.compliance,
    do recommendations (← r.theTotals)]

/-- A report that can be shown as far as the findings goes on with them. -/
theorem console_eq {verbose : Bool} {r : ReportData}
    (h : (showSections refusal? (overview r)).2 = none) :
    console refusal? verbose r
      = ((showSections refusal? (overview r)).1 ++
          (showSections refusal?
            (.ok (findings verbose r.findings) :: closing r)).1,
        (showSections refusal?
          (.ok (findings verbose r.findings) :: closing r)).2) :=
  showSections_append h

/-- If none of it is refused, a report shows all that is shown for the
findings. -/
theorem console_of_shown {verbose : Bool} {r : ReportData}
    (h : (showSections refusal? (overview r)).2 = none)
    (hshown : ∀ d ∈ findings verbose r.findings, refusal? d = none) :
    console refusal? verbose r
      = ((showSections refusal? (overview r)).1 ++
        findings verbose r.findings ++ (showSections refusal? (closing r)).1,
        (showSections refusal? (closing r)).2) := by
  rw [console_eq h, showSections, showUpTo_eq_self hshown, List.append_assoc]
  rfl

/-- If some of it is refused, a report shows what comes before and ends. -/
theorem console_of_refused {verbose : Bool} {r : ReportData}
    {before after : List Display} {d : Display} {fault : Fault}
    (h : (showSections refusal? (overview r)).2 = none)
    (hfindings : findings verbose r.findings = before ++ d :: after)
    (hbefore : ∀ d ∈ before, refusal? d = none) (hd : refusal? d = some fault) :
    console refusal? verbose r
      = ((showSections refusal? (overview r)).1 ++ before, some fault) := by
  rw [console_eq h, hfindings, showSections, showUpTo_of_refused hbefore hd]

end Report

-- =============================================================== marks

section Marks

variable (m : Marking)

theorem isStyle_colour (level : Severity) : Marking.IsStyle (colour level) := by
  cases level <;>
    exact ⟨⟨by decide, by decide⟩, by decide, by decide, by decide⟩

theorem isStyle_bold (level : Severity) :
    Marking.IsStyle ("bold " ++ colour level) := by
  cases level <;>
    exact ⟨⟨by decide, by decide⟩, by decide, by decide, by decide⟩

theorem isStyle_dim : Marking.IsStyle "dim" :=
  ⟨⟨by decide, by decide⟩, by decide, by decide, by decide⟩

theorem isUnmarked_shown_ofNat (n : Nat) :
    IsUnmarked (Value.ofNat n).shown.toList := by
  intro c hc
  have hdigits : (Value.ofNat n).shown.toList = Nat.toDigits 10 n :=
    Nat.toList_repr
  rw [hdigits] at hc
  have hdigit := Nat.isDigit_of_mem_toDigits (by decide) (by decide) hc
  constructor
  · rintro rfl
    cases hdigit
  · rintro rfl
    cases hdigit

/-- A heading is never refused. -/
theorem refusal?_heading (level : Severity) (count : Nat) :
    m.refusal? (heading level (Value.ofNat count)) = none := by
  have hwords : IsUnmarked (Text.upper level.name ++ " SEVERITY ISSUES (" ++
      (Value.ofNat count).shown ++ ")").toList := by
    have hname : IsUnmarked (Text.upper level.name).toList := by
      cases level <;> decide
    simp only [String.toList_append, isUnmarked_append]
    exact ⟨⟨⟨hname, by decide⟩, isUnmarked_shown_ofNat count⟩, by decide⟩
  refine m.refusal?_styled (isStyle_bold level) "\n" _ "" (by decide) hwords
    (by decide) ?_
  simp [String.toList_append]

/-- The texts of a finding that are shown. -/
def saidOf (verbose : Bool) (f : Finding) : List String :=
  [f.rule.shown, location f, f.message.shown] ++
    (if verbose then details f else []).map Prod.snd

theorem refusal?_entry {f : Finding} (hrule : '[' ∉ f.rule.shown.toList)
    (hplace : '[' ∉ (location f).toList) : m.refusal? (entry f) = none := by
  have hafter : '[' ∉ (" " ++ f.rule.shown ++ " - " ++ location f).toList := by
    simp [String.toList_append, hrule, hplace]
  refine m.refusal?_styled (isStyle_colour f.severity) "" "●" _ (by decide)
    (by decide) hafter ?_
  simp [String.toList_append]

theorem mem_titles_of_mem_details {f : Finding} {d : String × String}
    (h : d ∈ details f) : d.1 ∈ ["Code", "Fix", "Standards", "Compliance"] := by
  have hnoted {holds : Bool} {title text : String}
      (hd : d ∈ noted holds title text) : d.1 = title := by
    cases holds with
    | false => cases hd
    | true =>
        obtain rfl := List.mem_singleton.1 hd
        rfl
  unfold details at h
  simp only [List.mem_append] at h
  rcases h with ((hd | hd) | hd) | hd
  all_goals
    rw [hnoted hd]
    decide

theorem refusal?_detail {d : String × String} (htitle : IsUnmarked d.1.toList)
    (htext : '[' ∉ d.2.toList) : m.refusal? (detail d) = none := by
  have hwords : IsUnmarked (d.1 ++ ":").toList := by
    rw [String.toList_append]
    exact isUnmarked_append.2 ⟨htitle, by decide⟩
  have hafter : '[' ∉ (" " ++ d.2).toList := by
    simp [String.toList_append, htext]
  refine m.refusal?_styled isStyle_dim "  " _ _ (by decide) hwords hafter ?_
  simp [String.toList_append]

/-- What a finding is shown by is not refused if none of its texts has an
opening bracket. -/
theorem refusal?_of_mem_told {verbose : Bool} {f : Finding}
    (h : ∀ text ∈ saidOf verbose f, '[' ∉ text.toList) {d : Display}
    (hd : d ∈ told verbose f) : m.refusal? d = none := by
  rw [told, List.mem_cons, List.mem_cons, List.mem_append, List.mem_map,
    List.mem_singleton] at hd
  rcases hd with rfl | rfl | ⟨noted, hnoted, rfl⟩ | rfl
  · exact refusal?_entry m (h _ (by simp [saidOf])) (h _ (by simp [saidOf]))
  · have hmessage := h f.message.shown (by simp [saidOf])
    refine m.refusal?_of_notMem ?_
    simp [String.toList_append, hmessage]
  · have hdetails : noted ∈ details f := by
      cases verbose with
      | false => cases hnoted
      | true => exact hnoted
    have htitle : ∀ title ∈ ["Code", "Fix", "Standards", "Compliance"],
        IsUnmarked title.toList := by decide
    refine refusal?_detail m (htitle _ (mem_titles_of_mem_details hdetails))
      (h _ (List.mem_append_right _ ?_))
    exact List.mem_map_of_mem hnoted
  · rfl

/-- Nothing that is shown for findings is refused if none of their texts has an
opening bracket. -/
theorem refusal?_of_mem_findings {verbose : Bool} {found : List Finding}
    (h : ∀ f ∈ found, ∀ text ∈ saidOf verbose f, '[' ∉ text.toList)
    {d : Display} (hd : d ∈ findings verbose found) : m.refusal? d = none := by
  rw [findings_eq] at hd
  obtain ⟨level, -, hlevel⟩ := List.mem_flatMap.1 hd
  rcases List.mem_cons.1 hlevel with rfl | htold
  · exact refusal?_heading m level _
  · obtain ⟨f, hf, hdisplay⟩ := List.mem_flatMap.1 htold
    exact refusal?_of_mem_told m (h f (mem_ofSeverity.1 hf).1) hdisplay

end Marks

-- =============================================================== views

/-- The views of results by level agree with one another and with the findings
that were added. -/
structure LevelViews (m : Marking) (added found : List Finding)
    (metadata : Value) (verbose : Bool) : Prop where
  /-- Level by level the findings are those that were added, each once. -/
  reordered : (bySeverity found).Perm added
  /-- Those of one level are in the order in which they were added. -/
  stable : ∀ level, ofSeverity level (bySeverity found) = ofSeverity level added
  /-- There is a count for each level, and it is the number of its findings. -/
  counted :
    (severityCounts found).map Prod.fst = Severity.all.map Severity.name ∧
    ∀ level, Value.lookup level.name (severityCounts found)
      = some (Value.ofNat (ofSeverity level found).length)
  /-- The record of the results has these counts, and their sum as the
  total. -/
  summed : ∃ summary,
    Value.lookup "summary" (resultsRecord found metadata) = some summary ∧
    summary.get? "severity_counts" = some (.record (severityCounts found)) ∧
    summary.get? "total_issues" = some (Value.ofNat
      (Severity.all.map fun level => (ofSeverity level found).length).sum)
  /-- Each level that has findings is shown: under a heading with their count
  each finding has its entry, its message and, on request, its details. -/
  shown : findings verbose found = (levelsIn found).flatMap fun level =>
    heading level (Value.ofNat (ofSeverity level found).length) ::
      (ofSeverity level found).flatMap fun f =>
        entry f :: .line ("  " ++ f.message.shown) ::
          ((if verbose then details f else []).map detail ++ [.blank])
  /-- There are no other headings. -/
  headings : (findings verbose found).filter Display.isHeading
    = (levelsIn found).map fun level =>
        heading level (Value.ofNat (ofSeverity level found).length)
  /-- The entries are those of the findings, level by level, and no others. -/
  entries : (findings verbose found).filter Display.isEntry
    = (bySeverity found).map entry
  /-- A report shows all that right after its overview, if a terminal refuses
  nothing of it. -/
  whole : ∀ r : ReportData, r.findings = found →
    (showSections m.refusal? (overview r)).2 = none →
    (∀ d ∈ findings verbose found, m.refusal? d = none) →
    console m.refusal? verbose r
      = ((showSections m.refusal? (overview r)).1 ++ findings verbose found ++
          (showSections m.refusal? (closing r)).1,
        (showSections m.refusal? (closing r)).2)
  /-- The first of it that is refused ends the report. -/
  ended : ∀ r : ReportData, r.findings = found →
    (showSections m.refusal? (overview r)).2 = none →
    ∀ before d after fault, findings verbose found = before ++ d :: after →
      (∀ d ∈ before, m.refusal? d = none) → m.refusal? d = some fault →
      console m.refusal? verbose r
        = ((showSections m.refusal? (overview r)).1 ++ before, some fault)
  /-- Nothing is refused of findings whose texts have no opening bracket. -/
  unmarked : (∀ f ∈ found, ∀ text ∈ saidOf verbose f, '[' ∉ text.toList) →
    ∀ d ∈ findings verbose found, m.refusal? d = none

/-- Whatever findings are added to results, in whatever order, the findings
level by level are those that were added and the counts are theirs. A report
tells just them, up to the first line with marks that the terminal refuses. -/
theorem severity_views_agree (m : Marking) (added : List Finding)
    (metadata : Value) (verbose : Bool) :
    LevelViews m added (resultsAfter added) metadata verbose := by
  rw [resultsAfter_eq]
  refine
    { reordered := flatMap_ofSeverity_perm nodup_worstFirst mem_worstFirst added
      stable := fun level =>
        ofSeverity_flatMap nodup_worstFirst (mem_worstFirst level) added
      counted := ⟨?_, fun level => lookup_severityCounts level added⟩
      summed := ⟨_, rfl, rfl, ?_⟩
      shown := findings_eq verbose added
      headings := filter_isHeading_findings verbose added
      entries := filter_isEntry_findings verbose added
      whole := ?_
      ended := ?_
      unmarked := fun h _ hd => refusal?_of_mem_findings m h hd }
  · rw [severityCounts, List.map_map]
    rfl
  · have hall (level : Severity) : level ∈ Severity.all := by
      cases level <;> decide
    rw [sum_length_ofSeverity (by decide) hall]
    rfl
  · rintro r rfl hoverview hshown
    exact console_of_shown hoverview hshown
  · rintro r rfl hoverview before d after fault hfindings hbefore hd
    exact console_of_refused hoverview hfindings hbefore hd

/-- A low finding on a line of code. -/
def remarkOn (code : String) : Finding :=
  ⟨.text "quality.todo_comments", .low, .text "quality",
    .text "TODO/FIXME comment found", .text "a.py", .int 1, .null, .text code,
    .null, .real 0.5, .record [], none, none⟩

/-- A report on two findings, the first on code that reads as a mark. -/
def markedReport : ReportData :=
  ⟨[remarkOn "# TODO [/] x", remarkOn "# TODO y"], [], some (.record
    [("total_issues", .int 2), ("critical", .int 0), ("high", .int 0),
     ("medium", .int 0), ("low", .int 2), ("files_scanned", .int 1),
     ("files_with_errors", .int 0)]), [], []⟩

/-- Code that reads as a mark ends the report before its second finding, though
the results have both. -/
theorem report_ends_at_mark :
    ((console Marking.usual.refusal? true markedReport).1.filter Display.isEntry
        = [entry (remarkOn "# TODO [/] x")] ∧
      (console Marking.usual.refusal? true markedReport).2 = some
        (.badMark "closing tag '[/]' at position 26 has nothing to close")) ∧
    (bySeverity markedReport.findings).map entry
      = [entry (remarkOn "# TODO [/] x"), entry (remarkOn "# TODO y")] := by
  refine ⟨⟨?_, ?_⟩, ?_⟩
  · rfl
  · rfl
  · rfl

end SourceAudit.Report
