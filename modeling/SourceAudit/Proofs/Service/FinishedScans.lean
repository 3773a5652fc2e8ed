/-
A scan that has ended in memory, as the two services answer it.

Both make the same message of the same result, from the same totals and
findings, but for the frameworks that were detected: one turns each into a
message of its own, the other passes them on as they are. What was made to fit
fits again (`fit_of_make`), so all parts but the frameworks come out alike, and
the answers agree where nothing was detected. Where anything was, the second
service gives no answer at all (`finished_scan_answers`).
-/
import SourceAudit.Proofs.Framework.Invariant
import SourceAudit.Proofs.Service.Missing

namespace SourceAudit

open Schema Handler

-- ============================================================ findings

/-- A finding whose parts are of the kinds a message asks for. -/
structure Finding.Answerable (f : Finding) : Prop where
  rule : Accepts .text f.rule
  message : Accepts .text f.message
  line : Accepts (.optional anyWhole) f.line
  column : Accepts (.optional anyWhole) f.column
  snippet : Accepts (.optional .text) f.snippet
  remediation : Accepts (.optional .text) f.remediation
  category : Accepts .text f.category
  confidence : Accepts .real f.confidence
  metadata : f.metadata.isTruthy = true → Accepts (.table .anything) f.metadata

namespace Schema

theorem exists_make {s : Shape} {entries : List (String × Value)}
    (h : Accepts s (.record entries)) : ∃ v, make s entries = .ok v := by
  obtain ⟨v, hv⟩ := h.exists_fit
  exact ⟨v, by rw [make, hv]⟩

/-- A text that may be absent. -/
theorem accepts_ofText? (s : Option String) :
    Accepts (.optional .text) (Value.ofText? s) := by
  cases s with
  | none => exact .absent _
  | some s => exact .present (.text rfl)

/-- Every standard becomes a message. -/
theorem exists_ofStandard (s : Standard) : ∃ v, ofStandard s = .ok v := by
  refine exists_make (accepts_record_iff.2 ?_)
  simp only [List.forall_mem_cons]
  exact ⟨.text rfl, .text rfl, .text rfl, .text rfl,
    accepts_ofText? s.part, nofun⟩

theorem accepts_texts (xs : List String) :
    Accepts (.list .text) (Value.texts xs) := by
  refine .list fun v hv => ?_
  obtain ⟨s, -, rfl⟩ := List.mem_map.1 hv
  exact .text rfl

theorem accepts_severity (level : Severity) :
    Accepts severity (.text level.name) :=
  .choice (List.mem_map_of_mem (by cases level <;> decide))

/-- A finding whose parts are of the right kinds becomes a message. -/
theorem exists_ofFinding {f : Finding} (h : f.Answerable) :
    ∃ v, ofFinding true f = .ok v := by
  have heach : ∀ s ∈ (f.standards.getD []).filterMap Standard.withId?, ∃ v,
      ofStandard s = .ok v :=
    fun s _ => exists_ofStandard s
  obtain ⟨standards, hstandards⟩ := Outcome.exists_mapM heach
  have hlist : Accepts (.list standard) (.list standards) :=
    .list fun v hv => by
    obtain ⟨s, -, hs⟩ := Outcome.exists_of_mem_mapM hstandards hv
    exact accepts_of_make wellMade_standard hs
  have hdata : Accepts (.table .anything)
      (if f.metadata.isTruthy then f.metadata else .record []) := by
    split
    · rename_i htruthy
      exact h.metadata htruthy
    · exact (isOk_fit_iff _ _).1 rfl
  unfold ofFinding
  rw [hstandards]
  refine exists_make (accepts_record_iff.2 ?_)
  simp only [List.forall_mem_cons]
  exact ⟨h.rule, accepts_severity f.severity, h.message, .text rfl, h.line,
    h.column, h.snippet, h.remediation, h.category, h.confidence, hdata, hlist,
    accepts_texts _, nofun⟩

theorem fit_of_ofFinding {columns : Bool} {f : Finding} {v : Value}
    (h : ofFinding columns f = .ok v) : fit issue v = .ok v := by
  unfold ofFinding at h
  obtain ⟨standards, -, h⟩ := Outcome.bind_eq_ok h
  cases columns with
  | false => cases h
  | true => exact fit_of_make wellMade_issue h

-- ========================================================== frameworks

/-- A detected framework as a message. -/
def frameworkMessage (d : Framework.Detected) : Value :=
  .record [("name", .text d.name), ("type", .text d.area.name),
    ("confidence", .real d.confidence), ("files", Value.texts d.files)]

theorem fit_texts (xs : List String) :
    fit (.list .text) (Value.texts xs) = .ok (Value.texts xs) := by
  refine fit_list_of_forall fun v hv => ?_
  obtain ⟨s, -, rfl⟩ := List.mem_map.1 hv
  rfl

theorem fit_frameworkMessage (d : Framework.Detected) :
    fit framework (frameworkMessage d) = .ok (frameworkMessage d) := by
  have hreal : fit .real (.real d.confidence) = .ok (.real d.confidence) := rfl
  unfold framework frameworkMessage
  rw [fit_fields]
  simp only [fitFields, needed, usually, Value.lookup, String.reduceBEq,
    Bool.false_eq_true, if_true, if_false, fit_text, hreal, fit_texts,
    within_ok, both]
  rfl

/-- What is known of a detected framework becomes its message. -/
theorem ofFramework_record (d : Framework.Detected) :
    ofFramework
      (ScanResult.frameworkRecord d.name d.area.name (.real d.confidence)
        (Value.texts d.files) d.version) = .ok (frameworkMessage d) := by
  have hfiles : (d.files.map Value.text).map (fun path => Value.text path.shown)
      = d.files.map Value.text := by
    rw [List.map_map]
    rfl
  show make framework [("name", .text d.name), ("type", .text d.area.name),
    ("confidence", .real d.confidence),
    ("files",
      .list ((d.files.map Value.text).map fun path => .text path.shown))] = _
  rw [hfiles]
  have hfit := fit_frameworkMessage d
  unfold make
  unfold frameworkMessage Value.texts at hfit ⊢
  rw [hfit]

/-- Several frameworks by name. -/
def frameworkMessages (found : Framework.Detections) : List (String × Value) :=
  found.map fun e => (e.1, frameworkMessage e.2)

theorem fit_frameworkMessages {found : Framework.Detections} (h : found.Sound) :
    fit (.table framework) (.record (frameworkMessages found))
      = .ok (.record (frameworkMessages found)) := by
  refine fit_table_of_forall ?_ fun e he => ?_
  · rw [frameworkMessages, List.map_map]
    exact h.keys_nodup
  · obtain ⟨d, -, rfl⟩ := List.mem_map.1 he
    exact fit_frameworkMessage d.2

/-- What is known of the frameworks that were detected becomes their
messages. -/
theorem mapM_ofFramework (found : Framework.Detections) :
    (ScanResult.frameworksOf found).mapM (fun (name, f) => do return (name,
      ← ofFramework f))
      = .ok (frameworkMessages found) := by
  induction found with
  | nil => rfl
  | cons e rest ih =>
      unfold ScanResult.frameworksOf at ih ⊢
      rw [List.map_cons, List.mapM_cons, ih]
      dsimp only
      rw [ofFramework_record]
      rfl

/-- Frameworks that are passed on as they are fit just if there are none; else
each is a problem of its own. -/
theorem fit_unshaped (found : Framework.Detections) :
    fit (.table framework)
      (.record (found.map fun e => (e.1, AccountService.unshaped)))
      = match found with
        | [] => .ok (.record [])
        | e :: rest =>
          .error ((e :: rest).map fun e =>
            ([.field e.1], "type_error.dict")) := by
  have hentries (e : String × Framework.Detected)
      (rest : Framework.Detections) :
      fitEntries (fit framework)
          ((((e :: rest).map fun e => (e.1, AccountService.unshaped))).map
            fun f => (Value.text f.1, f.2))
        = .error ((e :: rest).map fun e =>
            ([.field e.1], "type_error.dict")) := by
    induction rest generalizing e with
    | nil => rfl
    | cons next rest ih =>
        have hrest := ih next
        rw [List.map_cons, List.map_cons, fitEntries, hrest]
        rfl
  rw [fit_table (entriesOf_record _)]
  cases found with
  | nil => rfl
  | cons e rest =>
      rw [hentries]
      rfl

-- ============================================================ messages

/-- Where all other parts fit, the message with the results of a scan turns on
the frameworks. -/
theorem make_scanResults {totals summary compliance compliance' : Value}
    {issues : List Value} {errors errors' : List (String × Value)}
    (hsummary : fit scanSummary totals = .ok summary)
    (hissues : ∀ v ∈ issues, fit issue v = .ok v)
    (herrors : fit (.table .text) (.record errors) = .ok (.record errors'))
    (hcompliance : fit (.table .pairs) compliance = .ok compliance')
    (id : String) (frameworks : List (String × Value)) :
    make scanResults
      (resultEntries id totals issues errors frameworks compliance)
      = match fit (.table framework) (.record frameworks) with
        | .ok fitted =>
          .ok (.record [("scan_id", .text id), ("summary", summary),
            ("issues", .list issues), ("errors", .record errors'),
            ("detected_frameworks", fitted),
            ("compliance_summary", compliance')])
        | .error problems => .error (.invalid (problems.map fun p =>
            (.field "detected_frameworks" :: p.1, p.2))) := by
  generalize hgiven :
    resultEntries id totals issues errors frameworks compliance = given
  have hid : fitField given (needed "scan_id" .text) = .ok (.text id) :=
    fitField_of_lookup (hgiven ▸ rfl) (fit_text id)
  have htotals : fitField given (needed "summary" scanSummary) = .ok summary :=
    fitField_of_lookup (hgiven ▸ rfl) hsummary
  have hlist : fitField given (needed "issues" (.list issue))
      = .ok (.list issues) :=
    fitField_of_lookup (hgiven ▸ rfl) (fit_list_of_forall hissues)
  have hreasons : fitField given (usually "errors" (.table .text) (.record []))
      = .ok (.record errors') :=
    fitField_of_lookup (hgiven ▸ rfl) herrors
  have hframeworks :
    fitField given
      (usually "detected_frameworks" (.table framework) (.record []))
      = within (.field "detected_frameworks")
        (fit (.table framework) (.record frameworks)) :=
    hgiven ▸ rfl
  have hoverview :
    fitField given (usually "compliance_summary" (.table .pairs) (.record []))
      = .ok compliance' :=
    fitField_of_lookup (hgiven ▸ rfl) hcompliance
  unfold make scanResults
  rw [fit_fields]
  simp only [fitFields_cons, hid, htotals, hlist, hreasons, hframeworks,
    hoverview]
  cases fit (.table framework) (.record frameworks) <;> rfl

end Schema

-- ============================================================ services

/-- A scan that has ended in memory: its result, with findings and errors of the
right kinds, the frameworks of a project and totals that make a summary. -/
structure FinishedScan (w : World) (id : String) (d : Desk) (r : ScanResult)
    (found : Framework.Detections) (totals : Value) : Prop where
  session : ∃ s, d.sessions.get? id = some s ∧ s.status = "completed" ∧
    s.result = some r
  full : w.full = true
  counted : w.totals = some totals
  summary : Accepts scanSummary totals
  findings : ∀ f ∈ r.findings, f.Answerable
  errors : ∀ e ∈ r.errors, isPlain e.2 = true
  compliance : Accepts (.table .pairs) r.compliance
  frameworks : r.frameworks = ScanResult.frameworksOf found

/-- What becomes of the parts of a result, the frameworks apart, in an
answer. -/
structure ResultParts (r : ScanResult) (totals summary : Value)
    (issues : List Value) (errors : List (String × Value))
    (compliance : Value) : Prop where
  summarized : fit scanSummary totals = .ok summary
  shaped : r.findings.mapM (ofFinding true) = .ok issues
  explained : fit (.table .text) (.record r.errors) = .ok (.record errors)
  surveyed : fit (.table .pairs) r.compliance = .ok compliance

section Services

variable {w : World} {id : String} {d : Desk} {r : ScanResult}
    {found : Framework.Detections}
  {totals : Value}

theorem FinishedScan.run_askedResult (h : FinishedScan w id d r found totals) :
    (askedResult id).run.run d = (.ok r, d) := by
  obtain ⟨s, hs, hstatus, hresult⟩ := h.session
  rw [Handler.run_askedResult, hs]
  dsimp only
  rw [hstatus, hresult]
  rfl

theorem FinishedScan.exists_parts (h : FinishedScan w id d r found totals) :
    ∃ summary issues errors compliance,
      ResultParts r totals summary issues errors compliance := by
  obtain ⟨summary, hsummary⟩ := h.summary.exists_fit
  obtain ⟨issues, hissues⟩ := Outcome.exists_mapM fun f hf =>
    exists_ofFinding (h.findings f hf)
  have htable : Accepts (.table .text) (.record r.errors) := by
    refine .table (entriesOf_record _) (fun e he => ?_) fun e he => ?_
    · obtain ⟨reason, -, rfl⟩ := List.mem_map.1 he
      rfl
    · obtain ⟨reason, hreason, rfl⟩ := List.mem_map.1 he
      exact .text (h.errors reason hreason)
  obtain ⟨reasons, hreasons⟩ := htable.exists_fit
  have hrecord := hreasons
  rw [fit_table (entriesOf_record _)] at hrecord
  obtain ⟨errors, -, rfl⟩ := map_eq_ok.1 hrecord
  obtain ⟨compliance, hcompliance⟩ := h.compliance.exists_fit
  exact ⟨summary, issues, _, compliance, hsummary, hissues, hreasons,
    hcompliance⟩

/-- The memory service turns each framework into its message. -/
theorem FinishedScan.run_memory (h : FinishedScan w id d r found totals) :
    ((MemoryService.results w id).run.run d).1
      = resultsOutcome w id r r.errors (frameworkMessages found) := by
  unfold MemoryService.results
  rw [run_bind, h.run_askedResult]
  dsimp only
  rw [run_bind, run_ofOutcome, h.frameworks, mapM_ofFramework]
  dsimp only
  rw [resultsMessage_eq, run_ofOutcome]

/-- Without a store the service with accounts passes them on as they are. -/
theorem FinishedScan.run_account (h : FinishedScan w id d r found totals)
    (hstored : w.stored = false) (user : Option User) :
    ((AccountService.results w id user).run.run d).1
      = resultsOutcome w id r []
        (found.map fun e => (e.1, AccountService.unshaped)) := by
  have hmemory : AccountService.results w id user = askedResult id >>= fun r =>
      resultsMessage w id r []
        (r.frameworks.map fun (name, _) =>
          (name, AccountService.unshaped)) := by
    unfold AccountService.results
    rw [hstored]
    rfl
  have hnames : (r.frameworks.map fun (name, _) =>
    (name, AccountService.unshaped))
      = found.map fun e => (e.1, AccountService.unshaped) := by
    rw [h.frameworks, ScanResult.frameworksOf, List.map_map]
    rfl
  rw [hmemory, run_bind, h.run_askedResult]
  dsimp only
  rw [hnames, resultsMessage_eq, run_ofOutcome]

section Answers

variable {summary compliance : Value} {issues : List Value}
    {errors : List (String × Value)}

theorem ResultParts.fit_issue
    (h : ResultParts r totals summary issues errors compliance) :
    ∀ v ∈ issues, fit issue v = .ok v := by
  intro v hv
  obtain ⟨f, -, hf⟩ := Outcome.exists_of_mem_mapM h.shaped hv
  exact fit_of_ofFinding hf

/-- The memory service answers, with all that was detected. -/
theorem FinishedScan.memory_answers (h : FinishedScan w id d r found totals)
    (hfound : found.Sound)
    (hparts : ResultParts r totals summary issues errors compliance) :
    ((MemoryService.results w id).run.run d).1
      = .ok
        (.record
          (resultEntries id summary issues errors
            (frameworkMessages found) compliance)) := by
  have hmake :=
    make_scanResults hparts.summarized hparts.fit_issue hparts.explained
    hparts.surveyed id (frameworkMessages found)
  rw [fit_frameworkMessages hfound] at hmake
  rw [h.run_memory, resultsOutcome, h.counted, h.full, hparts.shaped]
  exact hmake

/-- The service with accounts answers just if nothing was detected. -/
theorem FinishedScan.account_answers (h : FinishedScan w id d r found totals)
    (hparts : ResultParts r totals summary issues errors compliance)
    (hstored : w.stored = false) (user : Option User) :
    ((AccountService.results w id user).run.run d).1
      = if found.isEmpty then
        .ok (.record (resultEntries id summary issues [] [] compliance))
        else .error (.invalid (found.map fun e =>
          ([.field "detected_frameworks", .field e.1],
            "type_error.dict"))) := by
  have hnone : fit (.table .text) (.record []) = .ok (.record []) := rfl
  have hmake :=
    make_scanResults hparts.summarized hparts.fit_issue hnone hparts.surveyed id
    (found.map fun e => (e.1, AccountService.unshaped))
  rw [fit_unshaped] at hmake
  rw [h.run_account hstored, resultsOutcome, h.counted, h.full, hparts.shaped]
  refine hmake.trans ?_
  cases found with
  | nil => rfl
  | cons e rest => simp

end Answers

end Services

/-- A scan that has ended in memory, of a project whose frameworks were
detected. The memory service answers with the summary, the findings in order,
the errors, each framework that was detected and the overview of standards. The
service with accounts, without a store, gives the same answer but for the errors
if nothing was detected; if anything was, it gives none, and each framework is a
problem of its own. -/
theorem finished_scan_answers {w : World} {id : String} {d : Desk}
    {r : ScanResult} {tree : FileTree} {target : String} {totals : Value}
    (hstored : w.stored = false)
    (h : FinishedScan w id d r (Framework.detect tree target) totals)
    (user : Option User) :
    ∃ summary issues errors compliance,
      ResultParts r totals summary issues errors compliance ∧
      ((MemoryService.results w id).run.run d).1
        = .ok (.record (resultEntries id summary issues errors
            (frameworkMessages (Framework.detect tree target)) compliance)) ∧
      ((AccountService.results w id user).run.run d).1
        = if (Framework.detect tree target).isEmpty then
            .ok (.record (resultEntries id summary issues [] [] compliance))
          else .error (.invalid ((Framework.detect tree target).map fun e =>
            ([.field "detected_frameworks", .field e.1],
              "type_error.dict"))) := by
  obtain ⟨summary, issues, errors, compliance, hparts⟩ := h.exists_parts
  exact ⟨summary, issues, errors, compliance, hparts,
    h.memory_answers (Framework.sound_detect tree target) hparts,
    h.account_answers hparts hstored user⟩

/-- A project with nothing but a folder of templates. -/
def templatesOnly : FileTree := FileTree.empty.withFolder "templates"

theorem flask_mem_detect_templatesOnly :
    "flask" ∈ (Framework.detect templatesOnly ".").map Prod.fst := by
  have hprofile : ∃ p ∈ Framework.profiles, p.name = "flask" ∧
      "templates" ∈ p.folders := by decide
  exact Framework.mem_detect_of_folder rfl hprofile rfl

/-- A finding on a line, without more to say. -/
def plainFinding : Finding :=
  ⟨.text "a", .low, .text "quality", .text "m", .text "a.py", .int 1, .null,
    .null, .null, .real 1.0, .record [], none, none⟩

theorem answerable_plainFinding : plainFinding.Answerable where
  rule := .text rfl
  message := .text rfl
  line := .present (.whole rfl nofun nofun)
  column := .absent _
  snippet := .absent _
  remediation := .absent _
  category := .text rfl
  confidence := .real _
  metadata := nofun

/-- The totals of one finding in one file. -/
def oneFound : Value :=
  .record [("total_issues", .int 1), ("critical", .int 0), ("high", .int 0),
    ("medium", .int 0), ("low", .int 1), ("files_scanned", .int 1),
    ("files_with_errors", .int 1)]

/-- A world without a store, where those are the totals. -/
def countedWorld : World :=
  ⟨⟨2024, 1, 2, 3, 4, 5, 678901⟩, [], true, some oneFound, none, false⟩

/-- What a scan of a project gave: a finding, a file that could not be read and
the frameworks that were detected. -/
def scannedResult (tree : FileTree) : ScanResult :=
  ⟨[plainFinding], .record [], [("b.py", .text "unreadable")],
    ScanResult.frameworksOf (Framework.detect tree "."), .record []⟩

/-- A desk with that scan. -/
def finishedDesk (tree : FileTree) : Desk :=
  { Desk.ofReplies [] with
    sessions :=
      [("s",
        (Session.started countedWorld.now "upload" none).completed
          countedWorld.now (scannedResult tree))] }

theorem finishedScan_finishedDesk (tree : FileTree) :
    FinishedScan countedWorld "s" (finishedDesk tree) (scannedResult tree)
      (Framework.detect tree ".") oneFound where
  session := ⟨_, rfl, rfl, rfl⟩
  full := rfl
  counted := rfl
  summary := (isOk_fit_iff _ _).1 rfl
  findings := by simpa [scannedResult] using answerable_plainFinding
  errors := by simp [scannedResult, isPlain]
  compliance := (isOk_fit_iff _ _).1 rfl
  frameworks := rfl

/-- The scan of a project with templates is answered by the memory service
alone. -/
theorem finished_scan_answers_templates :
    FinishedScan countedWorld "s" (finishedDesk templatesOnly)
      (scannedResult templatesOnly)
        (Framework.detect templatesOnly ".") oneFound ∧
      (∃ v,
        ((MemoryService.results countedWorld "s").run.run
          (finishedDesk templatesOnly)).1 = .ok v) ∧
      ∃ problems, ((AccountService.results countedWorld "s" none).run.run
          (finishedDesk templatesOnly)).1 = .error (.invalid problems) ∧
        ([.field "detected_frameworks", .field "flask"], "type_error.dict")
          ∈ problems := by
  have hscan := finishedScan_finishedDesk templatesOnly
  obtain ⟨_, _, _, _, -, hmemory, haccount⟩ :=
    finished_scan_answers rfl hscan none
  obtain ⟨e, he, hname⟩ := List.mem_map.1 flask_mem_detect_templatesOnly
  rw [if_neg (by simpa using List.ne_nil_of_mem he)] at haccount
  exact ⟨hscan, ⟨_, hmemory⟩, _, haccount, hname ▸ List.mem_map_of_mem he⟩

/-- The two services do not answer every scan that has ended alike: here one
answers and the other does not. -/
theorem finished_scan_answered_apart :
    FinishedScan countedWorld "s" (finishedDesk templatesOnly)
      (scannedResult templatesOnly)
        (Framework.detect templatesOnly ".") oneFound ∧
      (∃ v,
        ((MemoryService.results countedWorld "s").run.run
          (finishedDesk templatesOnly)).1 = .ok v) ∧
      ∀ user v, ((AccountService.results countedWorld "s" user).run.run
        (finishedDesk templatesOnly)).1 ≠ .ok v := by
  have hscan := finishedScan_finishedDesk templatesOnly
  obtain ⟨_, _, _, _, hparts⟩ := hscan.exists_parts
  have hsound := Framework.sound_detect templatesOnly "."
  obtain ⟨e, he, -⟩ := List.mem_map.1 flask_mem_detect_templatesOnly
  refine ⟨hscan, ⟨_, hscan.memory_answers hsound hparts⟩, fun user v => ?_⟩
  rw [hscan.account_answers hparts rfl user,
    if_neg (by simpa using List.ne_nil_of_mem he)]
  exact nofun

end SourceAudit
