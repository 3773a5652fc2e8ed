/-
When the service with accounts marks a scan as completed in its store.

A run of a scan asks its store for a few things: to mark the scan as running, to
enter the issues, to mark the scan as completed, to note the event, and to mark
the scan as failed where something else goes wrong. An operation of the store
that fails has a stand-in for its answer, and the run looks at none of the
answers. So what is asked does not depend on what the store has answered before
(`ledger_run`), and a scan is marked as completed whether its issues were
entered or not.
-/
import SourceAudit.Proofs.Audit.Selection
import SourceAudit.Proofs.Service.ProductionUpload
import SourceAudit.Proofs.Service.StoredIssues

namespace SourceAudit

-- ================================================================ logs

namespace Store

/-- Whether a query is about a table. -/
def Query.isOn (q : Query) (table : String) : Bool :=
  (q.steps.head?.bind fun s =>
    s.arguments.head?.bind Value.asText?) == some table

/-- What is handed to a step of a query. -/
def Query.handed? (q : Query) (step : String) : Option Value :=
  (q.steps.find? fun s => s.name == step).bind fun s => s.arguments.head?

namespace Call

/-- Whether a call gives a scan a status. -/
def marks (status : String) : Call → Bool
  | .query q =>
    q.isOn "scans" &&
      ((q.handed? "update").bind (Value.get? "status")).bind Value.asText? ==
        some status
  | _ => false

/-- Whether a call enters issues. -/
def entersIssues : Call → Bool
  | .query q => q.isOn "issues" && (q.handed? "insert").isSome
  | _ => false

end Call

/-- Whether a store answers with so many rows. -/
def Reply.acknowledges (count : Nat) : Reply → Bool
  | .answers (.list rows) _ _ => rows.length == count
  | _ => false

/-- Whether a scan is marked as completed only once a call that enters issues
was answered with so many rows. `stored` tells whether that has been, or need
not be. -/
def marksOnlyStored (count : Nat) : Bool → List (Call × Reply) → Bool
  | _, [] => true
  | stored, (call, reply) :: rest =>
    (stored || !call.marks "completed") &&
      marksOnlyStored count (stored ||
        (call.entersIssues && reply.acknowledges count)) rest

/-- Where nothing is marked as completed, nothing is marked too early. -/
theorem marksOnlyStored_of_unmarked {log : List (Call × Reply)}
    (h : ∀ e ∈ log, e.1.marks "completed" = false) (count : Nat)
    (stored : Bool) : marksOnlyStored count stored log = true := by
  induction log generalizing stored with
  | nil => rfl
  | cons e rest ih =>
      rw [marksOnlyStored, h e List.mem_cons_self, Bool.not_false, Bool.or_true,
        Bool.true_and]
      exact ih (fun e' he' => h e' (List.mem_cons_of_mem e he')) _

/-- Once the issues are stored, or need not be, anything may be marked. -/
theorem marksOnlyStored_stored (count : Nat) (log : List (Call × Reply)) :
    marksOnlyStored count true log = true := by
  induction log with
  | nil => rfl
  | cons e rest ih =>
      rw [marksOnlyStored, Bool.true_or, Bool.true_or, Bool.true_and, ih]

end Store

namespace AccountService

open Handler Store Store.Service
open ProductionService (statusUpdate)

-- =============================================================== calls

/-- The columns for the totals of a scan, where there are any; then they have to
be a record. -/
def totalsIn (summary : Value) : Outcome (List (String × Value)) :=
  if summary.isTruthy then totalColumns summary else .ok []

/-- The columns that are changed together with the status of a scan. -/
def statusColumns (now : Moment) (status : String)
    (summary compliance frameworks : Value) : Outcome (List (String × Value)) :=
  let done := if (Value.text status).same (.text "completed") then
    [("completed_at", .text now.iso)] else []
  let rest (name : String) (v : Value) := if v.isTruthy then [(name, v)] else []
  (totalsIn summary).map fun totals =>
    [("status", .text status), ("updated_at", .text now.iso)] ++
      done ++ totals ++
      rest "compliance_summary" compliance ++
        rest "detected_frameworks" frameworks

/-- The call that changes the status of a scan, if its columns can be made. -/
def updateCalls (now : Moment) (n : Int) (status : String)
    (summary compliance frameworks : Value) : List Call :=
  match statusColumns now status summary compliance frameworks with
  | .ok columns => [statusUpdate (.int n) columns]
  | .error _ => []

/-- Changing the status of a scan never fails, and asks the same whatever was
answered. -/
theorem run_updateScan (now : Moment) (n : Int) (status : String)
    (summary compliance frameworks : Value) (l : Ledger) :
    ∃ answered,
      (updateScan now (.int n) (.text status) summary compliance
        frameworks).run.run l
      = (.ok answered,
        l.afterAll
          (updateCalls now n status summary compliance frameworks)) := by
  have hsteps :
    updateScan now (.int n) (.text status) summary compliance frameworks
      = Action.orElse (do
          let columns ← Action.ofOutcome
            (statusColumns now status summary compliance frameworks)
          let data ← Action.rows
            (((Query.table "scans").update (.record columns)).eq "id" (.int n))
          return isAnswered data) (.bool false) := by
    unfold updateScan statusColumns totalsIn
    by_cases hany : summary.isTruthy = true
    · rw [if_pos hany, if_pos hany]
      cases totalColumns summary <;> rfl
    · rw [if_neg hany, if_neg hany]
      rfl
  rw [hsteps, Action.run_orElse, run_bind, Action.run_ofOutcome, updateCalls]
  cases statusColumns now status summary compliance frameworks with
  | error why => exact ⟨_, rfl⟩
  | ok columns =>
      dsimp only
      rw [run_bind, Action.run_rows]
      cases l.next.rows <;> exact ⟨_, rfl⟩

/-- The call that marks a scan as running or failed. -/
def markCall (w : World) (n : Int) (status : String) : Call :=
  statusUpdate (.int n) [("status", .text status),
    ("updated_at", .text w.now.iso)]

theorem run_mark {w : World} {status : String} (h : status ≠ "completed")
    (n : Int) (d : Desk) :
    (mark w n status).run.run d
      = (.ok (),
        { d with ledger := d.ledger.after (markCall w n status) }) := by
  have hcalls : updateCalls w.now n status .null .null .null
      = [markCall w n status] := by
    have hsame : (Value.text status).same (.text "completed") = false := by
      simpa [Value.same] using h
    unfold updateCalls statusColumns
    rw [hsame]
    rfl
  obtain ⟨answered, hrun⟩ :=
    run_updateScan w.now n status .null .null .null d.ledger
  rw [hcalls] at hrun
  unfold mark
  rw [run_bind, run_ofAction, hrun]
  rfl

/-- The call that notes that a scan of a user was completed. -/
def eventCall (owner : Value) (n : Int) (r : ScanResult) : Call :=
  .query ((Query.table "audit_logs").insert (.record
    [("user_id", owner), ("action", .text "scan_completed"),
     ("resource_type", .text "scan"), ("resource_id", .int n),
     ("details", .record [("total_issues", Value.ofNat r.findings.length)])]))

theorem run_logEvent (owner : Value) (n : Int) (r : ScanResult) (l : Ledger) :
    ∃ answered, (logEvent owner (.text "scan_completed") (.text "scan") (.int n)
        (.record [("total_issues", Value.ofNat r.findings.length)])).run.run l
      = (.ok answered, l.after (eventCall owner n r)) := by
  unfold logEvent
  rw [Action.run_orElse, run_bind, Action.run_rows]
  cases l.next.rows <;> exact ⟨_, rfl⟩

-- ============================================================= storing

/-- Whether a result can be entered to the end: there have to be totals, and a
user who is there has to have an id. -/
def storeOutcome (w : World) (t : ScanTask) : Outcome Unit :=
  match w.totals with
  | none => .error (.noMember "AuditResults" "get_summary")
  | some _ => if User.isPresent t.user then (User.id t.user).map fun _ => ()
      else .ok ()

/-- The call that notes the event, if there is someone to note it for. -/
def eventCalls (t : ScanTask) (n : Int) (r : ScanResult) : List Call :=
  if User.isPresent t.user then
    match User.id t.user with
    | .ok owner => [eventCall owner n r]
    | .error _ => []
  else []

/-- The call that marks a scan as completed, if there are totals and their
columns can be made. -/
def completingCalls (w : World) (n : Int) (r : ScanResult) : List Call :=
  match w.totals with
  | none => []
  | some summary =>
    updateCalls w.now n "completed" summary r.compliance (.record r.frameworks)

/-- The calls that enter a result. -/
def storeCalls (w : World) (t : ScanTask) (n : Int) (r : ScanResult) :
    List Call :=
  savingCalls w.full (.int n) r.findings ++
    (completingCalls w n r ++ if w.totals.isSome then eventCalls t n r else [])

theorem run_store {w : World} {t : ScanTask} {n : Int}
    (hid : numberOf t.id = .ok n) (r : ScanResult) (d : Desk) :
    (store w t r).run.run d
      = (storeOutcome w t,
        { d with ledger := d.ledger.afterAll (storeCalls w t n r) }) := by
  obtain ⟨count, hsave⟩ := run_saveIssues w.full (.int n) r.findings d.ledger
  unfold store storeOutcome storeCalls completingCalls
  rw [hid, run_bind, run_ofOutcome]
  dsimp only
  rw [run_bind, run_ofAction, hsave]
  dsimp only
  rw [run_bind, totals]
  cases w.totals with
  | none =>
      rw [List.nil_append, Option.isSome_none, if_neg Bool.false_ne_true,
        List.append_nil]
      rfl
  | some summary =>
      rw [Option.isSome_some, if_pos rfl, Ledger.afterAll_append,
        Ledger.afterAll_append]
      generalize d.ledger.afterAll (savingCalls w.full (.int n) r.findings) = l
      obtain ⟨answered, hupdate⟩ :=
        run_updateScan w.now n "completed" summary r.compliance
        (.record r.frameworks) l
      show (ofAction _ >>= _).run.run _ = _
      rw [run_bind, run_ofAction, hupdate]
      dsimp only
      generalize l.afterAll _ = l'
      unfold eventCalls
      by_cases hpresent : User.isPresent t.user = true
      · rw [if_pos hpresent, if_pos hpresent, if_pos hpresent, run_bind,
          run_ofOutcome]
        cases User.id t.user with
        | error f => rfl
        | ok owner =>
            obtain ⟨noted, hnote⟩ := run_logEvent owner n r l'
            dsimp only
            rw [run_bind, run_ofAction, hnote]
            rfl
      · rw [if_neg hpresent, if_neg hpresent, if_neg hpresent]
        rfl

-- ================================================================ runs

/-- What the audit of a scan's folder gives. -/
def auditOf (w : World) (t : ScanTask) (tree : FileTree) :
    Outcome ScanResult := do
  let auditor ← Auditor.ofSettings t.settings
  return resultOf (← (auditor.audit w.full tree t.folder).1)

theorem run_audit (w : World) (t : ScanTask) (d : Desk) :
    (audit w t).run.run d = (auditOf w t d.tree, d) := by
  unfold audit auditOf
  rw [run_bind, run_ofOutcome]
  cases Auditor.ofSettings t.settings with
  | error f => rfl
  | ok auditor =>
      dsimp only
      rw [run_get_bind, run_bind, run_ofOutcome]
      cases hgiven : (auditor.audit w.full d.tree t.folder).1 with
      | error f => simp [hgiven, bind, Except.bind]
      | ok result => simp [hgiven, bind, Except.bind]; rfl

theorem auditOf_ok {w : World} {t : ScanTask} {tree : FileTree} {a : Auditor}
    {result : Audit} (hauditor : Auditor.ofSettings t.settings = .ok a)
    (hresult : (a.audit w.full tree t.folder).1 = .ok result) :
    auditOf w t tree = .ok (resultOf result) := by
  unfold auditOf
  rw [hauditor]
  show (a.audit w.full tree t.folder).1 >>= _ = _
  rw [hresult]
  rfl

/-- The call that marks a scan as failed, if entering its result fails. -/
def failingCalls (w : World) (n : Int) : Outcome Unit → List Call
  | .ok _ => []
  | .error _ => [markCall w n "failed"]

/-- The calls of a run whose audit gives something. -/
def runCalls (w : World) (t : ScanTask) (given : Outcome ScanResult) :
    List Call :=
  match numberOf t.id with
  | .error _ => []
  | .ok n =>
    markCall w n "running" ::
      match given with
      | .error f => failingCalls w n (.error f)
      | .ok r => storeCalls w t n r ++ failingCalls w n (storeOutcome w t)

/-- Telling those who follow a scan asks the store for nothing and leaves the
files alone. -/
theorem run_tell (w : World) (id status : String) (progress : Int)
    (message : String) (d : Desk) :
    ∃ live, (tell w id status progress message).run.run d
      = (.ok (), { d with live := live }) :=
  ⟨_, rfl⟩

theorem ledger_runKept {w : World} (hstored : w.stored = true) (t : ScanTask)
    (d : Desk) :
    ((runKept w t).run.run d).2.ledger
      = d.ledger.afterAll (runCalls w t (auditOf w t d.tree)) := by
  unfold runKept runCalls
  simp only [hstored, if_true]
  rw [run_tryCatch, run_bind, run_ofOutcome]
  cases hid : numberOf t.id with
  | error f => rfl
  | ok n =>
      dsimp only
      -- what is done about a failure, wherever it comes from
      have hfailing : ∀ (f : Fault) (d' : Desk),
          ((do
            mark w (← ofOutcome (.ok n)) "failed"
            tell w t.id "failed" 0 f.message :
              Handler Unit).run.run d').2.ledger
          = d'.ledger.afterAll (failingCalls w n (.error f)) := by
        intro f d'
        rw [run_bind, run_ofOutcome]
        dsimp only
        rw [run_bind, run_mark (by decide)]
        rfl
      obtain ⟨live, htell⟩ := run_tell w t.id "running" 0 ""
        { d with ledger := d.ledger.after (markCall w n "running") }
      rw [run_bind, run_mark (by decide)]
      dsimp only
      rw [run_bind, htell]
      dsimp only
      rw [run_bind, run_audit]
      cases auditOf w t d.tree with
      | error f => exact hfailing f _
      | ok r =>
          dsimp only
          rw [run_bind, run_store hid, Ledger.afterAll_cons,
            Ledger.afterAll_append]
          cases storeOutcome w t with
          | error f => exact hfailing f _
          | ok _ => rfl

/-- The calls of a run do not depend on what the store answers. -/
theorem ledger_run {w : World} (hstored : w.stored = true) (t : ScanTask)
    (d : Desk) :
    ((run w t).run.run d).2.ledger
      = d.ledger.afterAll (runCalls w t (auditOf w t d.tree)) := by
  rw [← ledger_runKept hstored]
  unfold run
  rw [run_bind, run_tryCatch]
  cases (runKept w t).run.run d with
  | mk outcome d' => cases outcome <;> rfl

-- ========================================================== completion

/-- A run marks its scan as completed: the id is a number, the audit gave a
result, and there are totals, which are a record or count as absent. -/
def Completes (w : World) (t : ScanTask) (given : Outcome ScanResult) : Prop :=
  (∃ n, numberOf t.id = .ok n) ∧ (∃ r, given = .ok r) ∧
    ∃ summary, w.totals = some summary ∧
      (summary.isTruthy = true → ∃ fields, summary = .record fields)

theorem statusColumns_ok_iff (now : Moment) (status : String)
    (summary compliance frameworks : Value) :
    (∃ columns, statusColumns now status summary compliance frameworks
      = .ok columns)
      ↔ (summary.isTruthy = true → ∃ fields, summary = .record fields) := by
  unfold statusColumns totalsIn
  by_cases hany : summary.isTruthy = true
  · rw [if_pos hany]
    cases summary with
    | record fields => exact ⟨fun _ _ => ⟨fields, rfl⟩, fun _ => ⟨_, rfl⟩⟩
    | _ => simp [totalColumns, Value.ask, bind, Except.bind, Except.map, hany]
  · rw [if_neg hany]
    exact ⟨fun _ h => absurd h hany, fun _ => ⟨_, rfl⟩⟩

theorem lookup_statusColumns {now : Moment} {status : String}
    {summary compliance frameworks : Value} {columns : List (String × Value)}
    (h : statusColumns now status summary compliance frameworks = .ok columns) :
    Value.lookup "status" columns = some (.text status) := by
  unfold statusColumns at h
  cases htotals : totalsIn summary with
  | error f =>
      rw [htotals] at h
      cases h
  | ok totals =>
      rw [htotals] at h
      obtain rfl := Except.ok.inj h
      rfl

/-- Whether a run completes its scan is whether it makes the one call that
does. -/
theorem completingCalls_cases (w : World) (t : ScanTask) {n : Int}
    (hid : numberOf t.id = .ok n) (r : ScanResult) :
    (¬Completes w t (.ok r) ∧ completingCalls w n r = []) ∨
      (Completes w t (.ok r) ∧ ∃ call, completingCalls w n r = [call] ∧
        call.marks "completed" = true) := by
  unfold completingCalls
  cases htotals : w.totals with
  | none =>
      refine .inl ⟨?_, rfl⟩
      rintro ⟨-, -, summary, hsome, -⟩
      rw [htotals] at hsome
      cases hsome
  | some summary =>
      have hiff := statusColumns_ok_iff w.now "completed" summary r.compliance
        (.record r.frameworks)
      dsimp only
      unfold updateCalls
      cases hmade : statusColumns w.now "completed" summary r.compliance
        (.record r.frameworks) with
      | error f =>
          refine .inl ⟨?_, rfl⟩
          rintro ⟨-, -, other, hsome, hrecord⟩
          obtain rfl : summary = other :=
            Option.some.inj (htotals.symm.trans hsome)
          obtain ⟨columns, hcolumns⟩ := hiff.2 hrecord
          rw [hmade] at hcolumns
          cases hcolumns
      | ok columns =>
          refine .inr ⟨⟨⟨n, hid⟩, ⟨r, rfl⟩, summary, htotals,
            hiff.1 ⟨columns, hmade⟩⟩, _, rfl, ?_⟩
          show ((Value.lookup "status" columns).bind Value.asText? == some
            "completed") = true
          rw [lookup_statusColumns hmade]
          rfl

/-- Findings are entered with one call if each can be written as a row, and else
with none. -/
theorem savingCalls_cases (columns : Bool) (scan : Value)
    {findings : List Finding} (h : findings ≠ []) :
    (∃ rows, findings.mapM (issueRow columns scan) = .ok rows ∧
        savingCalls columns scan findings
          = [.query ((Query.table "issues").insert (.list rows))]) ∨
      (¬∃ rows, findings.mapM (issueRow columns scan) = .ok rows) ∧
        savingCalls columns scan findings = [] := by
  unfold savingCalls
  cases hrows : findings.mapM (issueRow columns scan) with
  | error why =>
      refine .inr ⟨?_, rfl⟩
      rintro ⟨rows, hok⟩
      cases hok
  | ok rows =>
      left
      cases findings with
      | nil => exact absurd rfl h
      | cons f rest =>
          rw [List.mapM_cons] at hrows
          obtain ⟨row, -, hrows⟩ := Outcome.bind_eq_ok hrows
          obtain ⟨others, -, hrows⟩ := Outcome.bind_eq_ok hrows
          obtain rfl := Except.ok.inj hrows
          exact ⟨_, rfl, rfl⟩

/-- The calls of a run that come after the one that completes the scan do not
complete it. -/
theorem marks_tail (w : World) (t : ScanTask) (n : Int) (r : ScanResult) :
    ∀ call ∈ (if w.totals.isSome then eventCalls t n r else [])
        ++ failingCalls w n (storeOutcome w t), call.marks "completed"
          = false := by
  intro call hcall
  rcases List.mem_append.1 hcall with hevent | hfailing
  · split at hevent
    · unfold eventCalls at hevent
      split at hevent
      · split at hevent
        · rw [List.mem_singleton.1 hevent]
          rfl
        · cases hevent
      · cases hevent
    · cases hevent
  · unfold failingCalls at hfailing
    split at hfailing
    · cases hfailing
    · rw [List.mem_singleton.1 hfailing]
      rfl

theorem marks_savingCalls (columns : Bool) (scan : Value)
    (findings : List Finding) :
    ∀ call ∈ savingCalls columns scan findings, call.marks "completed"
      = false := by
  intro call hcall
  unfold savingCalls at hcall
  split at hcall
  · rw [List.mem_singleton.1 hcall]
    rfl
  · cases hcall

/-- The calls of a run whose audit gave a result. -/
theorem runCalls_ok {w : World} {t : ScanTask} {n : Int}
    (hid : numberOf t.id = .ok n) (r : ScanResult) :
    runCalls w t (.ok r) = markCall w n "running" ::
      (savingCalls w.full (.int n) r.findings ++ (completingCalls w n r ++
        ((if w.totals.isSome then eventCalls t n r else [])
          ++ failingCalls w n (storeOutcome w t)))) := by
  simp only [runCalls, hid, storeCalls, List.append_assoc]

/-- A run asks for the scan to be marked as completed just if it completes it;
what the store answers has no say in it. -/
theorem exists_marks_runCalls_iff (w : World) (t : ScanTask)
    (given : Outcome ScanResult) :
    (∃ call ∈ runCalls w t given, call.marks "completed" = true) ↔
      Completes w t given := by
  cases hid : numberOf t.id with
  | error f =>
      have hnone : runCalls w t given = [] := by simp only [runCalls, hid]
      rw [hnone]
      constructor
      · rintro ⟨call, hcall, -⟩
        cases hcall
      · rintro ⟨⟨n, hn⟩, -⟩
        rw [hid] at hn
        cases hn
  | ok n =>
      have hopening : (markCall w n "running").marks "completed" = false := rfl
      cases given with
      | error f =>
          have hcalls : runCalls w t (.error f)
              = [markCall w n "running", markCall w n "failed"] := by
            simp only [runCalls, hid, failingCalls]
          have hclosing : (markCall w n "failed").marks "completed"
              = false := rfl
          rw [hcalls]
          constructor
          · simp [hopening, hclosing]
          · rintro ⟨-, ⟨r, hr⟩, -⟩
            cases hr
      | ok r =>
          have hsaving := marks_savingCalls w.full (.int n) r.findings
          have htail := marks_tail w t n r
          rw [runCalls_ok hid]
          rcases completingCalls_cases w t hid r with
            ⟨hnot, hcompleting⟩ | ⟨hcompletes, call, hcompleting, hmark⟩
          · refine iff_of_false ?_ hnot
            rintro ⟨call, hcall, hmark⟩
            rw [hcompleting, List.nil_append] at hcall
            have hunmarked : call.marks "completed" = false := by
              rcases List.mem_cons.1 hcall with rfl | hcall
              · exact hopening
              · rcases List.mem_append.1 hcall with hcall | hcall
                · exact hsaving call hcall
                · exact htail call hcall
            rw [hunmarked] at hmark
            cases hmark
          · refine iff_of_true ⟨call, ?_, hmark⟩ hcompletes
            rw [hcompleting]
            simp

/-- A run completes its scan only once its issues are stored just if, where it
does complete it, there are none, or all could be written and the store answered
with as many rows. -/
theorem marksOnlyStored_runCalls {w : World} {t : ScanTask} {n : Int}
    (hid : numberOf t.id = .ok n) (r : ScanResult) (l : Ledger) :
    marksOnlyStored r.findings.length r.findings.isEmpty
      (l.exchanges (runCalls w t (.ok r))) = true
      ↔ (Completes w t (.ok r) → r.findings = [] ∨
          (∃ rows, r.findings.mapM (issueRow w.full (.int n)) = .ok rows) ∧
          (l.after (markCall w n "running")).next.acknowledges r.findings.length
            = true) := by
  by_cases hnone : r.findings = []
  · rw [hnone, List.isEmpty_nil, marksOnlyStored_stored]
    exact ⟨fun _ _ => .inl rfl, fun _ => rfl⟩
  have hopening : ∀ stored log, marksOnlyStored r.findings.length stored
      ((markCall w n "running", l.next) :: log)
        = marksOnlyStored r.findings.length stored log := by
    intro stored log
    have hmark : (markCall w n "running").marks "completed" = false := rfl
    have henter : (markCall w n "running").entersIssues = false := rfl
    rw [marksOnlyStored, hmark, henter, Bool.not_false, Bool.or_true,
      Bool.true_and, Bool.false_and, Bool.or_false]
  rw [runCalls_ok hid, Ledger.exchanges, hopening]
  generalize l.after (markCall w n "running") = l
  have htail : ∀ (l' : Ledger) stored,
    marksOnlyStored r.findings.length stored
      (l'.exchanges ((if w.totals.isSome then eventCalls t n r else []) ++
        failingCalls w n (storeOutcome w t))) = true := fun l' stored =>
    marksOnlyStored_of_unmarked
      (fun e he =>
        marks_tail w t n r e.1 (Ledger.fst_mem_of_mem_exchanges he)) _ _
  have hempty : r.findings.isEmpty = false := by simpa using hnone
  rw [hempty]
  rcases completingCalls_cases w t hid r with
    ⟨hnot, hcompleting⟩ | ⟨hcompletes, call, hcompleting, hmark⟩
  · rw [hcompleting, List.nil_append]
    refine ⟨fun _ hcompletes => absurd hcompletes hnot, fun _ => ?_⟩
    rcases savingCalls_cases w.full (.int n) hnone with ⟨rows, -,
      hsaving⟩ | ⟨-, hsaving⟩
    · rw [hsaving, List.singleton_append, Ledger.exchanges,
        marksOnlyStored, htail]
      rfl
    · rw [hsaving, List.nil_append, htail]
  · rw [hcompleting, List.singleton_append]
    rcases savingCalls_cases w.full (.int n) hnone with ⟨rows, hrows,
      hsaving⟩ | ⟨hno, hsaving⟩
    · rw [hsaving, List.singleton_append, Ledger.exchanges, Ledger.exchanges,
        marksOnlyStored, marksOnlyStored, htail, hmark]
      have henter :
          (Call.query ((Query.table "issues").insert (.list rows))).entersIssues
            = true :=
        rfl
      have hother :
        (Call.query ((Query.table "issues").insert (.list rows))).marks
          "completed"
        = false := rfl
      rw [henter, hother]
      simp [hcompletes, hnone, hrows]
    · rw [hsaving, List.nil_append, Ledger.exchanges, marksOnlyStored, hmark]
      simp [hcompletes, hnone, hno]

-- ============================================================== audits

theorem lookedUp_of_withStandards {f m : Finding}
    (h : f.withStandards = .ok m) : m.LookedUp := by
  unfold Finding.withStandards at h
  obtain ⟨framework, -, h⟩ := Outcome.bind_eq_ok h
  obtain ⟨weakness, -, h⟩ := Outcome.bind_eq_ok h
  obtain ⟨standards, -, h⟩ := Outcome.bind_eq_ok h
  obtain rfl := Except.ok.inj h
  exact ⟨rfl, rfl⟩

/-- Findings that have been mapped have had their standards looked up. -/
theorem lookedUp_of_withCompliance {findings mapped : List Finding}
    {summary : ComplianceSummary}
    (h : withCompliance findings = .ok (mapped, summary)) :
    ∀ m ∈ mapped, m.LookedUp := by
  unfold withCompliance at h
  obtain ⟨given, hgiven, h⟩ := Outcome.bind_eq_ok h
  obtain ⟨counted, -, h⟩ := Outcome.bind_eq_ok h
  obtain ⟨rfl, -⟩ := Prod.mk.inj (Except.ok.inj h)
  intro m hm
  obtain ⟨f, -, hf⟩ := Outcome.exists_of_mem_mapM hgiven hm
  exact lookedUp_of_withStandards hf

/-- An audit where results cannot be gathered finds nothing. -/
theorem findings_of_ungathered {a : Auditor} {tree : FileTree} {target : String}
    {found : Framework.Detections} {result : Audit}
    (h : a.auditWith false tree target found = .ok result) :
    result.findings = [] := by
  have hsteps : a.auditWith false tree target found
      = a.filesToScan tree target >>= fun files =>
        if files.isEmpty then .ok ⟨found, [], [], []⟩
        else .error (.noMember "AuditResults" "add_error") := by
    unfold Auditor.auditWith Auditor.filesToScan
    split
    · rfl
    · cases a.filesOf tree target with
      | error f => rfl
      | ok files => cases files <;> rfl
  rw [hsteps] at h
  obtain ⟨files, -, h⟩ := Outcome.bind_eq_ok h
  split at h
  · obtain rfl := Except.ok.inj h
    rfl
  · cases h

/-- What an audit finds can be written as rows. -/
theorem exists_rows_of_auditOf {w : World} {t : ScanTask} {tree : FileTree}
    {r : ScanResult} (h : auditOf w t tree = .ok r) (scan : Value) :
    ∃ rows, r.findings.mapM (issueRow w.full scan) = .ok rows := by
  unfold auditOf at h
  obtain ⟨auditor, -, h⟩ := Outcome.bind_eq_ok h
  obtain ⟨result, hresult, h⟩ := Outcome.bind_eq_ok h
  obtain rfl := Except.ok.inj h
  rw [Auditor.auditor_audit] at hresult
  cases hfull : w.full with
  | false =>
      rw [hfull] at hresult
      exact ⟨[], by rw [resultOf, findings_of_ungathered hresult]; rfl⟩
  | true =>
      rw [hfull] at hresult
      obtain ⟨files, hmapped, -⟩ := Auditor.auditWith_eq_ok hresult
      obtain ⟨rows, hrows, -⟩ :=
        exists_issueRows (lookedUp_of_withCompliance hmapped) scan
      exact ⟨rows, hrows⟩

-- =============================================================== store

/-- What a run asks of the store does not depend on what the store answers. The
scan is marked as completed whenever the audit gave a result and the totals are
in order. So that happens only once the issues are stored just if there are
none, or the store happens to answer the call that enters them with as many
rows; and that call is made, since what an audit finds can always be written as
rows. -/
theorem completion_ignores_store {w : World} (hstored : w.stored = true)
    (t : ScanTask) (d : Desk) :
    ((run w t).run.run d).2.ledger = d.ledger.afterAll
      (runCalls w t (auditOf w t d.tree)) ∧
      (∀ given, (∃ call ∈ runCalls w t given, call.marks "completed" = true)
        ↔ Completes w t given) ∧
      (∀ n r, numberOf t.id = .ok n →
        (marksOnlyStored r.findings.length r.findings.isEmpty
            (d.ledger.exchanges (runCalls w t (.ok r))) = true
          ↔ (Completes w t (.ok r) → r.findings = [] ∨
              (∃ rows, r.findings.mapM (issueRow w.full (.int n)) = .ok rows) ∧
              (d.ledger.after (markCall w n "running")).next.acknowledges
                r.findings.length = true))) ∧
      ∀ r, auditOf w t d.tree = .ok r →
        ∀ scan, ∃ rows, r.findings.mapM (issueRow w.full scan) = .ok rows :=
  ⟨ledger_run hstored t d, exists_marks_runCalls_iff w t,
    fun _ r hid => marksOnlyStored_runCalls hid r d.ledger,
    fun _ haudit scan => exists_rows_of_auditOf haudit scan⟩

/-- The folder of a scan, with a file that has a note to do. -/
def noteFolder : FileTree :=
  FileTree.empty.withFile "vibeaudit_7_/a.py" (Text.encode "# TODO x\n")

/-- The scan of that folder, for one finding a file. -/
def noteTask : ScanTask :=
  ⟨"7", "vibeaudit_7_", { AuditSettings.usual with maxPerFile := .int 1 }, none⟩

/-- A world with a store and with totals. -/
def keptWorld : World :=
  ⟨⟨2024, 1, 2, 3, 4, 5, 678901⟩, [], true,
    some (.record [("total_issues", .int 1)]), none, true⟩

/-- A desk with that folder, whose store gives a reply to its second call. -/
def noteDesk (reply : Reply) : Desk :=
  { Desk.ofReplies [.answers (.list []) .null .null, reply] with
    tree := noteFolder }

theorem filesBelow_noteFolder :
    noteFolder.filesBelow "vibeaudit_7_" = ["vibeaudit_7_/a.py"] := by
  have hbelow : noteFolder.below "vibeaudit_7_"
      = [("vibeaudit_7_/a.py", .file (Text.encode "# TODO x\n"))] :=
    FileTree.below_eq rfl rfl (by decide)
  rw [FileTree.filesBelow, hbelow]
  rfl

/-- The audit of that folder finds the note, and no more than one finding is
asked for. -/
theorem auditOf_note :
    ∃ r, auditOf keptWorld noteTask noteFolder = .ok r ∧
      r.findings.length = 1 := by
  have hfresh : Auditor.ofSettings noteTask.settings
      = .ok ⟨noteTask.settings, Rule.all⟩ := rfl
  have hfolder : noteFolder.isFile "vibeaudit_7_" = false := by decide
  have hmost : noteTask.settings.maxPerFile.asWhole?
      = some ((1 : Nat) : Int) := rfl
  have hscans := AuditSettings.scansFile_ok (c := noteTask.settings)
    AuditSettings.areUsable_usual.1 AuditSettings.areUsable_usual.2
  have hlearned := (Auditor.catalogued_ofSettings hfresh).2.learn
    (Framework.detect noteFolder "vibeaudit_7_")
  obtain ⟨result, hresult, hfindings, -⟩ :=
    Auditor.auditWith_folder hlearned hmost hscans hfolder
    (Framework.detect noteFolder "vibeaudit_7_")
  have hscanned : Auditor.scannedIn noteTask.settings noteFolder "vibeaudit_7_"
      = ["vibeaudit_7_/a.py"] := by
    rw [Auditor.scannedIn, filesBelow_noteFolder]
    decide
  refine ⟨resultOf result, auditOf_ok hfresh ?_, ?_⟩
  · rw [Auditor.auditor_audit]
    exact hresult
  · have hsource : Auditor.sourceAt noteFolder "vibeaudit_7_/a.py"
        = some ⟨Text.encode "# TODO x\n"⟩ := rfl
    have hlines :
      Reading.fileLines.lines (Source.mk (Text.encode "# TODO x\n")).text
        = ["# TODO x\n"] := by
      decide +kernel
    have hnote :
      (Auditor.foundIn [Rule.todoComments] noteFolder
        "vibeaudit_7_/a.py").isEmpty
        = false := by
      rw [Auditor.foundIn_single rfl, hsource, Rule.check_of_lines rfl hlines]
      decide +kernel
    obtain ⟨note, hnote⟩ :=
      List.exists_mem_of_ne_nil _ (List.isEmpty_eq_false_iff.1 hnote)
    obtain ⟨rule, hrule, hcheck⟩ := List.mem_flatMap.1 hnote
    obtain ⟨hrule, happlies⟩ := List.mem_filter.1 hrule
    obtain rfl := List.mem_singleton.1 hrule
    have hknown : Rule.todoComments ∈ Rule.all := by
      simp [Rule.all, Rule.qualityRules]
    have hfound : note
      ∈ Auditor.foundIn (Auditor.learn ⟨noteTask.settings,
        Rule.all⟩ (Framework.detect noteFolder "vibeaudit_7_")).rules noteFolder
          "vibeaudit_7_/a.py" :=
      List.mem_flatMap.2 ⟨_,
        List.mem_filter.2 ⟨List.mem_append_left _ hknown, happlies⟩, hcheck⟩
    have hlength := congrArg List.length hfindings
    have hsettings : (Auditor.learn ⟨noteTask.settings, Rule.all⟩
        (Framework.detect noteFolder "vibeaudit_7_")).settings
          = noteTask.settings := rfl
    rw [hsettings, hscanned, List.flatMap_singleton, List.length_map,
      List.length_take] at hlength
    have hsome := List.length_pos_of_mem hfound
    show result.findings.length = 1
    omega

/-- That scan completes, whatever it found. -/
theorem completes_note (r : ScanResult) :
    Completes keptWorld noteTask (.ok r) :=
  ⟨⟨7, rfl⟩, ⟨r, rfl⟩, _, rfl, fun _ => ⟨_, rfl⟩⟩

/-- It is marked as completed, whatever the store replies. -/
theorem exists_marks_note {r : ScanResult}
    (haudit : auditOf keptWorld noteTask noteFolder = .ok r) (reply : Reply) :
    ∃ call ∈ ((run keptWorld noteTask).run.run (noteDesk reply)).2.ledger.calls,
      call.marks "completed" = true := by
  obtain ⟨call, hcall, hmark⟩ :=
    (exists_marks_runCalls_iff keptWorld noteTask (.ok r)).2 (completes_note r)
  refine ⟨call, ?_, hmark⟩
  rw [ledger_run rfl, show (noteDesk reply).tree = noteFolder from rfl, haudit,
    Ledger.calls_afterAll]
  exact List.mem_append_left _ (List.mem_reverse.2 hcall)

/-- The one finding is entered before the scan is marked as completed, and the
store says so. -/
theorem completion_ignores_store_acknowledged :
    keptWorld.stored = true ∧ ∃ r,
      auditOf keptWorld noteTask noteFolder = .ok r ∧
      r.findings.length = 1 ∧
      (∃ call ∈ ((run keptWorld noteTask).run.run
          (noteDesk (.answers (.list [.null]) .null .null))).2.ledger.calls,
        call.marks "completed" = true) ∧
      marksOnlyStored r.findings.length r.findings.isEmpty
        ((noteDesk (.answers (.list [.null]) .null .null)).ledger.exchanges
          (runCalls keptWorld noteTask (.ok r))) = true := by
  obtain ⟨r, haudit, hone⟩ := auditOf_note
  obtain ⟨-, -, hiff, hrows⟩ := completion_ignores_store (w := keptWorld) rfl
    noteTask (noteDesk (.answers (.list [.null]) .null .null))
  refine ⟨rfl, r, haudit, hone, exists_marks_note haudit _, ?_⟩
  refine (hiff 7 r rfl).2 fun _ => .inr ⟨hrows r haudit _, ?_⟩
  rw [hone]
  rfl

/-- The store refuses the one finding, and the scan is marked as completed all
the same. -/
theorem completed_though_refused :
    ∃ r, auditOf keptWorld noteTask noteFolder = .ok r ∧ r.findings.length = 1 ∧
      (∃ call
        ∈ ((run keptWorld noteTask).run.run
          (noteDesk (.fails "refused"))).2.ledger.calls,
          call.marks "completed" = true) ∧
      marksOnlyStored r.findings.length r.findings.isEmpty
        ((noteDesk (.fails "refused")).ledger.exchanges
          (runCalls keptWorld noteTask (.ok r)))
          = false := by
  obtain ⟨r, haudit, hone⟩ := auditOf_note
  refine ⟨r, haudit, hone, exists_marks_note haudit _, ?_⟩
  rw [Bool.eq_false_iff, Ne, marksOnlyStored_runCalls (n := 7) rfl]
  intro hstored
  rcases hstored (completes_note r) with hnone | ⟨-, hrefused⟩
  · rw [hnone] at hone
    cases hone
  · cases hrefused

end AccountService

end SourceAudit
