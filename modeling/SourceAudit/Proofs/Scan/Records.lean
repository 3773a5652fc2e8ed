/-
What becomes of the records in a report of weaknesses in programs.

A record goes two ways before it is a finding. On the first, all records of a
report are turned into issues in one go, and a confidence that is no word ends
it for all of them (`issues_records`). On the second each issue goes alone, and
one whose severity is no word is left out (`findingOf?_issueOf`). So the records
lose nothing to each other exactly if all their confidences are words
(`records_found_iff_confidences_worded`).
-/
import SourceAudit.Proofs.Scan.Endings
import SourceAudit.Proofs.Value.Json.RoundTrip

namespace SourceAudit

namespace Bandit

-- ============================================================= records

/-- The fields of a record. -/
abbrev Fields := List (String × Value)

/-- Whether a field of a record is a text or left out. -/
def worded (name : String) (record : Fields) : Bool :=
  (Value.lookup name record).all fun v => v.asText?.isSome

/-- Whether all fields of a record are of the kind that the tool gives them, or
left out. -/
def wellTyped (record : Fields) : Bool :=
  ["test_id", "issue_text", "issue_severity", "filename", "code", "test_name",
    "issue_confidence"].all (worded · record)
    && (Value.lookup "line_number" record).all fun v => v.asInt?.isSome

theorem worded_of_wellTyped {name : String} {record : Fields}
    (hname : name ∈ ["test_id", "issue_text", "issue_severity", "filename",
      "code", "test_name", "issue_confidence"])
    (h : wellTyped record = true) : worded name record = true :=
  List.all_eq_true.1 (Bool.and_eq_true_iff.1 h).1 name hname

/-- The word in a field of a record, or the one it stands for if it is left
out. -/
def wordOf (name fallback : String) (record : Fields) : String :=
  (((Value.lookup name record).getD (.text fallback)).asText?).getD fallback

/-- The issue of a record, its confidence being known. -/
def issueWith (record : Fields) (confidence : Value) : Value :=
  let get (name fallback : String) : Value :=
    (Value.lookup name record).getD (.text fallback)
  toolIssue (.text ("bandit_" ++ (get "test_id" "unknown").shown))
    (get "issue_text" "Security issue") (get "issue_severity" "MEDIUM")
      (get "filename" "")
    ((Value.lookup "line_number" record).getD (.int 0)) (get "code" "")
    (.text ("Bandit " ++ (get "test_name" "").shown ++ ": " ++
      (get "issue_text" "").shown))
    confidence

/-- The issue of a record whose confidence is a word. -/
def issueOf (record : Fields) : Value :=
  issueWith record
    (.real (certainty (wordOf "issue_confidence" "MEDIUM" record)))

def findingOf (record : Fields) : Finding :=
  let get (name fallback : String) : Value :=
    (Value.lookup name record).getD (.text fallback)
  { rule := .text ("bandit_" ++ (get "test_id" "unknown").shown)
    severity :=
      SecurityScan.severityOf (wordOf "issue_severity" "MEDIUM" record)
    category := .text "security"
    message := get "issue_text" "Security issue"
    file := .text (get "filename" "").shown
    line := (Value.lookup "line_number" record).getD (.int 0)
    column := .null
    snippet := get "code" ""
    remediation :=
      .text ("Bandit " ++ (get "test_name" "").shown ++ ": " ++
        (get "issue_text" "").shown)
    confidence := .real (certainty (wordOf "issue_confidence" "MEDIUM" record))
    metadata :=
      .record [("tool", .text "bandit"), ("original_data", issueOf record)]
    standards := none
    frameworks := none }

/-- A field that is a text or left out holds its word. -/
theorem getD_of_worded {name : String} {record : Fields}
    (h : worded name record = true) (fallback : String) :
    (Value.lookup name record).getD (.text fallback)
      = .text (wordOf name fallback record) := by
  unfold worded at h
  unfold wordOf
  cases hfield : Value.lookup name record with
  | none => rfl
  | some v =>
      rw [hfield] at h
      cases v with
      | text s => rfl
      | _ => cases h

/-- A field that is neither holds no word. -/
theorem asText?_of_not_worded {name : String} {record : Fields}
    (h : worded name record = false) (fallback : Value) :
    ((Value.lookup name record).getD fallback).asText? = none := by
  unfold worded at h
  cases hfield : Value.lookup name record with
  | none =>
      rw [hfield] at h
      cases h
  | some v =>
      rw [hfield] at h
      exact Option.isSome_eq_false_iff.1 h |> Option.isNone_iff_eq_none.1

/-- Only its confidence can keep a record from becoming an issue. -/
theorem issue_record (record : Fields) :
    issue (.record record)
      = (confidence
        ((Value.lookup "issue_confidence" record).getD (.text "MEDIUM"))).map
          (issueWith record) := by
  unfold issue issueWith
  simp only [Value.ask, bind, Except.bind, pure, Except.pure]
  cases confidence
    ((Value.lookup "issue_confidence" record).getD (.text "MEDIUM")) <;> rfl

theorem issue_of_worded {record : Fields}
    (h : worded "issue_confidence" record = true) :
    issue (.record record) = .ok (issueOf record) := by
  rw [issue_record, getD_of_worded h]
  rfl

theorem issue_of_not_worded {record : Fields}
    (h : worded "issue_confidence" record = false) :
    ∃ why, issue (.record record) = .error why := by
  have hno := asText?_of_not_worded h (.text "MEDIUM")
  rw [issue_record]
  cases hvalue :
    (Value.lookup "issue_confidence" record).getD (.text "MEDIUM") with
  | text s =>
      rw [hvalue] at hno
      cases hno
  | _ => exact ⟨_, rfl⟩

/-- A confidence that is no word takes the issues of all records with it. -/
theorem issues_records {records : List Fields} {fields : Fields}
    (h : Value.lookup "results" fields = some (.list (records.map .record))) :
    if records.all (worded "issue_confidence") then
      issues (.record fields) = .ok (records.map issueOf)
    else ∃ why, issues (.record fields) = .error why := by
  have hissues : issues (.record fields)
      = (records.map Value.record).mapM issue := by
    have hresults : (Value.record fields).ask "results" (.list [])
        = .ok (.list (records.map .record)) := by
      rw [Value.ask, h]
      rfl
    unfold issues
    rw [hresults]
    simp only [bind, Except.bind, Value.each]
  rw [hissues, List.mapM_map]
  by_cases hall : records.all (worded "issue_confidence") = true
  · rw [if_pos hall]
    refine Outcome.mapM_eq_map fun r hr => ?_
    rw [Function.comp_apply, issue_of_worded (List.all_eq_true.1 hall r hr)]
  · rw [if_neg hall]
    obtain ⟨r, hr, hno⟩ : ∃ r ∈ records, worded "issue_confidence" r
        = false := by
      simpa using hall
    obtain ⟨why, hwhy⟩ := issue_of_not_worded hno
    have hstep : (issue ∘ Value.record) r = .error why := by
      rw [Function.comp_apply, hwhy]
    exact Outcome.mapM_eq_error hr hstep

-- ============================================================ findings

/-- A severity that is no word costs its own record the finding. -/
theorem findingOf?_issueOf (record : Fields) :
    SecurityScan.findingOf? (issueOf record) "bandit"
      = if worded "issue_severity" record then some (findingOf record)
        else none := by
  have hfinding : SecurityScan.findingOf? (issueOf record) "bandit"
      = ((Value.lookup "issue_severity" record).getD
        (.text "MEDIUM")).asText?.map fun word =>
          { findingOf record with
            severity := SecurityScan.severityOf word } := rfl
  rw [hfinding]
  cases hworded : worded "issue_severity" record with
  | true =>
      rw [getD_of_worded hworded]
      rfl
  | false =>
      rw [asText?_of_not_worded hworded]
      rfl

/-- Issues become findings one by one. -/
theorem filterMap_issueOf (records : List Fields) :
    (records.map issueOf).filterMap (SecurityScan.findingOf? · "bandit")
      = (records.filter (worded "issue_severity")).map findingOf := by
  rw [List.filterMap_map]
  induction records with
  | nil => rfl
  | cons record rest ih =>
      rw [List.filterMap_cons, Function.comp_apply, findingOf?_issueOf,
        List.filter_cons, ih]
      cases worded "issue_severity" record with
      | true => rfl
      | false => rfl

/-- The findings of a run that has ended well and printed records. -/
theorem findingsOf_reported {code : Int} {out err : String} {fields : Fields}
    {records : List Fields} (hcode : code = 0 ∨ code = 1)
    (hout : Value.ofJson out = .ok (.record fields))
    (hresults : Value.lookup "results" fields
      = some (.list (records.map .record))) :
    SecurityScan.findingsOf
      (.ofOutcome "bandit" "Bandit" (reported (code, out, err)))
      = if records.all (worded "issue_confidence") then
          (records.filter (worded "issue_severity")).map findingOf
        else [] := by
  have hissues := issues_records hresults
  dsimp only [reported]
  rw [if_pos (by simpa using hcode), hout]
  by_cases hall : records.all (worded "issue_confidence") = true
  · rw [if_pos hall] at hissues ⊢
    rw [← filterMap_issueOf]
    show SecurityScan.findingsOf (.ofOutcome "bandit" "Bandit"
      (issues (.record fields) >>= _)) = _
    rw [hissues]
    rfl
  · rw [if_neg hall] at hissues ⊢
    obtain ⟨why, hwhy⟩ := hissues
    show SecurityScan.findingsOf (.ofOutcome "bandit" "Bandit"
      (issues (.record fields) >>= _)) = _
    rw [hwhy]
    exact findingsOf_error "bandit" "Bandit" why

end Bandit

namespace SecurityScan

/-- Files that the tool looks at are all in one group. -/
theorem groupOf_of_takes {path : String} (h : Bandit.takes path = true) :
    groupOf path = "python" := by
  have hgroup : ("python", [".py"]) ∈ groups := by decide
  refine (groupOf_eq_iff hgroup path).2 ?_
  rw [beq_iff_eq.1 h]
  exact List.mem_singleton.2 rfl

variable (boxes : String → Toolbox) (tree : FileTree) (paths : List String)

/-- So its findings are those in that group. -/
theorem filter_bandit :
    (scanWith boxes tree paths).filter (fun f => f.tool? == some "bandit")
      = foundBy boxes tree paths "python" .bandit := by
  have hother : ∀ group, group ≠ "python" →
      foundBy boxes tree paths group .bandit = [] := by
    intro group hgroup
    have hnone : Scanner.bandit.supports (filesIn group paths) = false := by
      refine List.any_eq_false.2 fun p hp htakes => hgroup ?_
      rw [← groupOf_of_takes htakes]
      exact (beq_iff_eq.1 (List.mem_filter.1 hp).2).symm
    unfold foundBy Scanner.findings
    rw [hnone]
    rfl
  have hrest : ∀ group ∈ groupNames.tail, foundBy boxes tree paths group .bandit
      = [] := by
    have hne : ∀ group ∈ groupNames.tail, group ≠ "python" := by decide
    exact fun group hgroup => hother group (hne group hgroup)
  refine (filter_scanWith boxes tree paths .bandit).trans ?_
  rw [show groupNames = "python" :: groupNames.tail from rfl, List.flatMap_cons,
    List.flatMap_eq_nil_iff.2 hrest, List.append_nil]

variable {boxes tree paths}

/-- If the tool takes a file, and can read all that it takes, its findings are
those of its run. -/
theorem foundBy_bandit {answer : Int × String × String}
    (hrun : (boxes "python").run "bandit" = .ok answer)
    (htaken : ∃ p ∈ paths, Bandit.takes p = true)
    (hread : ∀ p ∈ paths, Bandit.takes p = true → ∃ text,
      tree.readText p = .ok text) :
    foundBy boxes tree paths "python" .bandit
      = findingsOf (.ofOutcome "bandit" "Bandit" (Bandit.reported answer)) := by
  have hnormal (p : String) : Bandit.takes (Path.normal p) = Bandit.takes p :=
    Scanner.bandit.opens_normal p
  obtain ⟨p, hp, htakes⟩ := htaken
  have hmem : Path.normal p ∈ filesIn "python" paths :=
    List.mem_filter.2 ⟨List.mem_map_of_mem hp, by
      rw [groupOf_normal, groupOf_of_takes htakes, beq_self_eq_true]⟩
  have hsupports : Scanner.bandit.supports (filesIn "python" paths) = true :=
    List.any_eq_true.2 ⟨_, hmem, (hnormal p).trans htakes⟩
  have hown : (filesIn "python" paths).filter Bandit.takes ≠ [] :=
    List.ne_nil_of_mem (List.mem_filter.2 ⟨hmem, (hnormal p).trans htakes⟩)
  have hreadable : ∀ q ∈ (filesIn "python" paths).filter Bandit.takes,
      ∃ text, tree.readText q = .ok text := by
    intro q hq
    obtain ⟨hfile, hqtakes⟩ := List.mem_filter.1 hq
    obtain ⟨r, hr, rfl⟩ := List.mem_map.1 (List.mem_filter.1 hfile).1
    obtain ⟨text, htext⟩ := hread r hr ((hnormal r).symm.trans hqtakes)
    exact ⟨text, FileTree.readText_normal.2 htext⟩
  obtain ⟨folder, hscan, -⟩ := (Bandit.handsCopies hown tree).1 hreadable
  have hreport : Bandit.scan (boxes "python") tree (filesIn "python" paths)
      = .ofOutcome "bandit" "Bandit" (Bandit.reported answer) := by
    refine (hscan fun _ => (boxes "python").run "bandit").trans ?_
    dsimp only
    rw [hrun]
    rfl
  unfold foundBy Scanner.findings
  rw [if_pos hsupports]
  exact congrArg findingsOf hreport

/-- If the tool ends well and prints records, each of them whose severity is a
word becomes one finding, in order; but if the confidence of any record is no
word, none of them does. So the records with fields of the kinds that the tool
gives them become one finding each exactly if all confidences are words, or if
there are no such records. -/
theorem records_found_iff_confidences_worded (boxes : String → Toolbox)
    (tree : FileTree) (paths : List String) (records : List Bandit.Fields)
    (fields : Bandit.Fields) (code : Int) (out err : String)
    (hrun : (boxes "python").run "bandit" = .ok (code, out, err))
    (hcode : code = 0 ∨ code = 1)
    (hout : Value.ofJson out = .ok (.record fields))
    (hresults :
      Value.lookup "results" fields = some (.list (records.map .record)))
        (htaken : ∃ p ∈ paths, Bandit.takes p = true)
        (hread : ∀ p ∈ paths, Bandit.takes p = true → ∃ text,
          tree.readText p = .ok text) :
    let found := (scanWith boxes tree paths).filter fun f =>
      f.tool? == some "bandit"
    let good := records.filter Bandit.wellTyped
    found = (if records.all (Bandit.worded "issue_confidence") then
        (records.filter (Bandit.worded "issue_severity")).map Bandit.findingOf
          else [])
      ∧ ((good.map Bandit.findingOf).Sublist found
          ↔ records.all (Bandit.worded "issue_confidence") = true ∨
            good = []) := by
  intro found good
  have hfound : found = if records.all (Bandit.worded "issue_confidence") then
      (records.filter (Bandit.worded "issue_severity")).map Bandit.findingOf
        else [] := by
    rw [show found = _ from filter_bandit boxes tree paths,
      foundBy_bandit hrun htaken hread,
      Bandit.findingsOf_reported hcode hout hresults]
  refine ⟨hfound, ?_⟩
  rw [hfound]
  by_cases hall : records.all (Bandit.worded "issue_confidence") = true
  · rw [if_pos hall]
    refine ⟨fun _ => .inl hall, fun _ => List.Sublist.map _ ?_⟩
    refine List.monotone_filter_right records fun r hr => ?_
    exact Bandit.worded_of_wellTyped (by decide) hr
  · rw [if_neg hall, List.sublist_nil, List.map_eq_nil_iff]
    exact ⟨.inr, fun h => h.resolve_left hall⟩

/-- A program that can be read. -/
def plainFolder : FileTree :=
  FileTree.empty.withFile "a.py" [0x78]

/-- Two records, the first with nothing amiss, the second with one field that is
nothing. -/
def twoRecords (field : String) : List Bandit.Fields :=
  [[("test_id", .text "B1")], [(field, .null)]]

/-- A report with these records, as it is printed. -/
def printed (field : String) : String :=
  Value.Json.indented
    (.record [("results", .list ((twoRecords field).map .record))])

/-- The tool prints such a report. -/
def printing (field _group : String) : Toolbox :=
  [("bandit", .ended 1 (printed field) "")]

theorem ofJson_printed (field : String) :
    Value.ofJson (printed field)
      = .ok
        (.record [("results", .list ((twoRecords field).map .record))]) := by
  apply Value.ofJson_indented
  simp [twoRecords, Value.isJson_list_iff, Value.isJson_record_iff,
    Value.IsJson.text, Value.IsJson.null]

theorem readable_plainFolder :
    ∀ p ∈ ["a.py"], Bandit.takes p = true → ∃ text,
      plainFolder.readText p = .ok text :=
  fun _ hp _ => ⟨"x", List.mem_singleton.1 hp ▸ rfl⟩

/-- A severity that is nothing costs its own record alone. -/
theorem records_found_iff_confidences_worded_severity :
    (printing "issue_severity" "python").run "bandit"
      = .ok (1, printed "issue_severity", "")
      ∧ Value.ofJson (printed "issue_severity")
        = .ok
          (.record
            [("results", .list ((twoRecords "issue_severity").map .record))])
      ∧ Bandit.takes "a.py" = true ∧ plainFolder.readText "a.py" = .ok "x"
      ∧ (scanWith (printing "issue_severity") plainFolder ["a.py"]).filter
          (fun f => f.tool? == some "bandit")
            = [Bandit.findingOf [("test_id", .text "B1")]] := by
  have hrun : (printing "issue_severity" "python").run "bandit"
      = .ok (1, printed "issue_severity", "") := rfl
  have htakes : Bandit.takes "a.py" = true := rfl
  obtain ⟨hfound, -⟩ :=
    records_found_iff_confidences_worded (printing "issue_severity")
    plainFolder ["a.py"] (twoRecords "issue_severity") _ 1 _ _ hrun (.inr rfl)
    (ofJson_printed "issue_severity") rfl ⟨"a.py",
      List.mem_singleton_self _, htakes⟩
    readable_plainFolder
  exact ⟨hrun, ofJson_printed "issue_severity", htakes, rfl, hfound⟩

/-- A confidence that is nothing costs the other record its finding too. -/
theorem broken_confidence_hides_record :
    (printing "issue_confidence" "python").run "bandit"
      = .ok (1, printed "issue_confidence", "")
      ∧ Value.ofJson (printed "issue_confidence")
        = .ok
          (.record
            [("results", .list ((twoRecords "issue_confidence").map .record))])
      ∧ Bandit.wellTyped [("test_id", .text "B1")] = true
      ∧ (scanWith (printing "issue_confidence") plainFolder ["a.py"]).filter
          (fun f => f.tool? == some "bandit") = [] := by
  have hrun : (printing "issue_confidence" "python").run "bandit"
      = .ok (1, printed "issue_confidence", "") := rfl
  have htakes : Bandit.takes "a.py" = true := rfl
  refine ⟨hrun, ofJson_printed "issue_confidence", rfl, ?_⟩
  rw [filter_bandit,
    foundBy_bandit hrun ⟨"a.py", List.mem_singleton_self _,
      htakes⟩ readable_plainFolder]
  exact Bandit.findingsOf_reported (.inr rfl)
    (ofJson_printed "issue_confidence") rfl

end SecurityScan

end SourceAudit
