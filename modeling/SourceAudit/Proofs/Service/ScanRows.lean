/-
What becomes of the row of a scan once an upload has entered it.

An upload enters a row for its scan before it scans the file (`Sent.enter`), and
all it does after that is about this row (`Sent.finish`). Whether it is accepted
depends on the scan and on whether the store takes the issues, and on nothing
else (`run_finish`, `run_finish_refused`): the row is marked as completed in one
call or two, and both may fail. So an accepted upload answers that its scan is
completed, and the store has acknowledged that just if it has not refused both
calls (`acknowledged_recordCalls_iff`).
-/
import SourceAudit.Proofs.Service.Completion
import SourceAudit.Proofs.Service.StoredPaths

namespace SourceAudit

namespace Store.Ledger

/-- Calls in two parts, the second of which goes on with the replies that are
left. -/
theorem exchanges_append (l : Ledger) (first rest : List Call) :
    l.exchanges (first ++ rest) = l.exchanges first ++
      (l.afterAll first).exchanges rest := by
  induction first generalizing l with
  | nil => rfl
  | cons call more ih =>
      rw [List.cons_append, exchanges, ih, exchanges, afterAll_cons]
      rfl

/-- Each call uses up one reply. -/
theorem replies_afterAll (l : Ledger) (calls : List Call) :
    (l.afterAll calls).replies = l.replies.drop calls.length := by
  induction calls generalizing l with
  | nil => rfl
  | cons call rest ih =>
      rw [afterAll_cons, ih, after, List.drop_tail, List.length_cons]

end Store.Ledger

namespace ProductionService

open Handler Store

-- ============================================================== status

/-- A call that gives the row of a scan a status. -/
def GivesStatus (scan : Value) (status : String) (call : Call) : Prop :=
  ∃ more, call = statusUpdate scan (("status", .text status) :: more)

/-- Among calls and their replies, one that gives the row of a scan a status was
answered. -/
def Acknowledged (scan : Value) (status : String)
    (log : List (Call × Reply)) : Prop :=
  ∃ e ∈ log, GivesStatus scan status e.1 ∧ e.2.rows.isOk = true

/-- Whether a store with such replies refuses both calls that mark a scan as
completed, once it has taken the rows. -/
def refusesBoth (rows : List Value) (replies : List Reply) : Bool :=
  match replies.drop (insertion rows).length with
  | .fails _ :: .fails _ :: _ => true
  | _ => false

/-- Such a call is seen as one that marks a scan. -/
theorem marks_of_givesStatus {scan : Value} {status : String} {call : Call}
    (h : GivesStatus scan status call) : call.marks status = true := by
  obtain ⟨more, rfl⟩ := h
  show (true && (some status == some status)) = true
  simp

theorem not_givesStatus {scan : Value} {status : String} {calls : List Call}
    (h : (calls.all fun call => !call.marks status) = true) :
    ∀ call ∈ calls, ¬ GivesStatus scan status call := by
  intro call hcall hgives
  have hnone := List.all_eq_true.1 h call hcall
  rw [marks_of_givesStatus hgives] at hnone
  cases hnone

theorem not_acknowledged {scan : Value} {status : String}
    {log : List (Call × Reply)}
    (h : (log.all fun e => !(e.1.marks status && e.2.rows.isOk)) = true) :
    ¬ Acknowledged scan status log := by
  rintro ⟨e, he, hgives, hok⟩
  have hnone := List.all_eq_true.1 h e he
  rw [marks_of_givesStatus hgives, hok] at hnone
  cases hnone

theorem marks_insertion (status : String) (rows : List Value) :
    ∀ call ∈ insertion rows, call.marks status = false := by
  intro call hcall
  unfold insertion at hcall
  split at hcall
  · exact absurd hcall List.not_mem_nil
  · rw [List.mem_singleton.1 hcall]
    rfl

theorem acknowledged_cons {scan : Value} {status : String} {e : Call × Reply}
    {log : List (Call × Reply)} (h : GivesStatus scan status e.1) :
    Acknowledged scan status (e :: log)
      ↔ e.2.rows.isOk = true ∨ Acknowledged scan status log := by
  unfold Acknowledged
  rw [List.exists_mem_cons_iff]
  simp [h]

theorem not_acknowledged_nil (scan : Value) (status : String) :
    ¬ Acknowledged scan status [] := by
  rintro ⟨e, he, -⟩
  cases he

/-- Entering issues tells nothing about the status of a scan. -/
theorem acknowledged_insertion_append {scan : Value} {status : String}
    (rows : List Value) (l : Ledger) (log : List (Call × Reply)) :
    Acknowledged scan status (l.exchanges (insertion rows) ++ log)
      ↔ Acknowledged scan status log := by
  constructor
  · rintro ⟨e, he, hgives, hok⟩
    rcases List.mem_append.1 he with hentered | hlater
    · have hmarks :=
        marks_insertion status rows e.1
          (Ledger.fst_mem_of_mem_exchanges hentered)
      rw [marks_of_givesStatus hgives] at hmarks
      cases hmarks
    · exact ⟨e, hlater, hgives, hok⟩
  · rintro ⟨e, he, hgives⟩
    exact ⟨e, List.mem_append_right _ he, hgives⟩

/-- The two calls that mark a scan, the second of which is made if the first one
fails. -/
theorem acknowledged_marking_iff (scan : Value) (count : Nat) (l : Ledger) :
    Acknowledged scan "completed" (l.exchanges (statusUpdate scan
        [("status", .text "completed"), ("total_issues", Value.ofNat count)] ::
          retry scan l.replies[0]?))
      ↔ ¬ ∃ why why' rest, l.replies = .fails why :: .fails why' :: rest := by
  have hgives (more : List (String × Value)) : GivesStatus scan "completed"
      (statusUpdate scan (("status", .text "completed") :: more)) := ⟨more, rfl⟩
  obtain ⟨replies, calls⟩ := l
  rw [Ledger.exchanges, acknowledged_cons (hgives _)]
  rcases replies with _ | ⟨⟨data, error, user⟩ | why, rest⟩
  · simp [Ledger.next, Reply.rows, Except.isOk, Except.toBool]
  · simp [Ledger.next, Reply.rows, Except.isOk, Except.toBool]
  · have hretry : (Ledger.after ⟨.fails why :: rest, calls⟩ (statusUpdate scan
        [("status", .text "completed"),
          ("total_issues", Value.ofNat count)])).exchanges
          (retry scan (Reply.fails why :: rest)[0]?)
        = [(statusUpdate scan [("status", .text "completed")],
            rest.head?.getD (.answers (.list []) .null .null))] := rfl
    rw [hretry, acknowledged_cons (hgives []),
      or_iff_left (not_acknowledged_nil _ _)]
    rcases rest with _ | ⟨⟨data, error, user⟩ | why', more⟩
    · simp [Ledger.next, Reply.rows, Except.isOk, Except.toBool]
    · simp [Ledger.next, Reply.rows, Except.isOk, Except.toBool]
    · simp [Ledger.next, Reply.rows, Except.isOk, Except.toBool]

/-- Marking a scan is acknowledged just if the store does not refuse both
calls. -/
theorem acknowledged_recordCalls_iff (scan : Value) (rows : List Value)
    (l : Ledger) :
    Acknowledged scan "completed"
      (l.exchanges (recordCalls scan rows l.replies))
      ↔ refusesBoth rows l.replies = false := by
  have hreplies := Ledger.replies_afterAll l (insertion rows)
  have hnext : l.replies[(insertion rows).length]?
      = (l.afterAll (insertion rows)).replies[0]? := by
    rw [hreplies, List.getElem?_drop, Nat.add_zero]
  rw [recordCalls, Ledger.exchanges_append,
    acknowledged_insertion_append, hnext, acknowledged_marking_iff, hreplies,
    refusesBoth]
  split
  · next why why' rest heq => simp [heq]
  · next hother =>
      simp only [iff_true]
      rintro ⟨why, why', rest, heq⟩
      exact hother why why' rest heq

-- ================================================================ rows

namespace Sent

variable {inspect : FileScan} {c : ServerSettings} {s : Sent} {d d₀ : Desk}
    {scan : Value}

/-- An upload that has its row, the issues of which the store takes, is
accepted. -/
theorem run_finish {findings : List Finding}
    (hscan : inspect d.tree (s.path c) = .ok findings)
    (htakes : takes (findings.map (findingRow scan)) d.ledger.replies = true) :
    ∃ d', (s.finish inspect c scan).run.run d
        = (.ok (uploadReply scan (s.path c) (findings.map Finding.toValue)),
          d') ∧
      d'.ledger.calls.reverse = d.ledger.calls.reverse
        ++ recordCalls scan (findings.map (findingRow scan))
          d.ledger.replies := by
  obtain ⟨l, hrun, hcalls⟩ := run_record htakes scan
  refine ⟨{ d with ledger := l }, ?_, hcalls⟩
  rw [finish, run_bind, run_scanFile, hscan]
  simp only [Except.map]
  rw [run_bind, run_ofAction, map_issueRow_toValue, hrun]
  rfl

/-- If the scan fails or the store does not take the issues, nothing is
answered. -/
theorem run_finish_refused
    (h : ∀ findings, inspect d.tree (s.path c) = .ok findings →
      takes (findings.map (findingRow scan)) d.ledger.replies = false) :
    ∃ f d', (s.finish inspect c scan).run.run d = (.error f, d') := by
  cases hscan : inspect d.tree (s.path c) with
  | error f =>
      refine ⟨f, d, ?_⟩
      rw [finish, run_bind, run_scanFile, hscan]
      rfl
  | ok findings =>
      obtain ⟨why, l, hrun, -⟩ := run_record_refused (h findings hscan) scan
      refine ⟨why, { d with ledger := l }, ?_⟩
      rw [finish, run_bind, run_scanFile, hscan]
      simp only [Except.map]
      rw [run_bind, run_ofAction, map_issueRow_toValue, hrun]

/-- An upload that has its row ends as finishing it does. -/
theorem handle_eq_ok_iff (hrow : (s.enter c).run.run d = (.ok scan, d₀))
    {reply : Value} {d' : Desk} :
    (s.handle inspect c).run.run d = (.ok reply, d')
      ↔ (s.finish inspect c scan).run.run d₀ = (.ok reply, d') := by
  have hchecked : (uploadChecked inspect c s.user s.name s.bytes).run.run d
      = (s.finish inspect c scan).run.run d₀ := by
    rw [uploadChecked_eq, run_bind, hrow]
  constructor
  · intro h
    rw [← hchecked]
    exact uploadChecked_of_uploadWith h
  · intro h
    rw [handle, uploadWith, run_tryCatch, hchecked, h]

/-- What becomes of an upload once the row of its scan is there. It is accepted
just if the file can be scanned and the store takes the issues. It then answers
that the scan is completed, and it has entered the issues and asked for the row
to be marked as completed, once or twice. That has been acknowledged just if the
store has not refused both calls. -/
theorem completed_unless_both_refused (inspect : FileScan) (c : ServerSettings)
    (s : Sent) (d d₀ : Desk) (scan : Value)
    (hrow : (s.enter c).run.run d = (.ok scan, d₀)) :
    ((∃ reply d', (s.handle inspect c).run.run d = (.ok reply, d')) ↔
      ∃ findings, inspect d₀.tree (s.path c) = .ok findings ∧
        takes (findings.map (findingRow scan)) d₀.ledger.replies = true) ∧
    ∀ reply d', (s.handle inspect c).run.run d = (.ok reply, d') →
      reply.get? "scan_id" = some scan ∧
      reply.get? "status" = some (.text "completed") ∧
      ∃ findings rows, inspect d₀.tree (s.path c) = .ok findings ∧
        rows = findings.map (findingRow scan) ∧
        d'.ledger.calls.reverse = d₀.ledger.calls.reverse
          ++ recordCalls scan rows d₀.ledger.replies ∧
        (Acknowledged scan "completed"
            (d₀.ledger.exchanges (recordCalls scan rows d₀.ledger.replies))
          ↔ refusesBoth rows d₀.ledger.replies = false) := by
  simp only [handle_eq_ok_iff hrow]
  by_cases hends : ∃ findings, inspect d₀.tree (s.path c) = .ok findings ∧
      takes (findings.map (findingRow scan)) d₀.ledger.replies = true
  · obtain ⟨findings, hscan, htakes⟩ := hends
    obtain ⟨d', hrun, hcalls⟩ := run_finish hscan htakes
    refine ⟨⟨fun _ => ⟨findings, hscan, htakes⟩, fun _ => ⟨_, d', hrun⟩⟩, ?_⟩
    intro reply d'' hok
    rw [hrun] at hok
    obtain ⟨hreply, rfl⟩ := Prod.mk.inj hok
    obtain rfl := Except.ok.inj hreply
    exact ⟨rfl, rfl, findings, _, hscan, rfl, hcalls,
      acknowledged_recordCalls_iff scan _ _⟩
  · have hnone : ∀ findings, inspect d₀.tree (s.path c) = .ok findings →
        takes (findings.map (findingRow scan)) d₀.ledger.replies = false := by
      intro findings hscan
      by_contra htakes
      exact hends ⟨findings, hscan, by simpa using htakes⟩
    obtain ⟨f, d', hrun⟩ := run_finish_refused hnone
    have hnever (reply : Value) (d'' : Desk) :
        (s.finish inspect c scan).run.run d₀ ≠ (.ok reply, d'') := by
      rw [hrun]
      intro heq
      cases (Prod.mk.inj heq).1
    refine ⟨⟨?_, fun h => absurd h hends⟩, fun reply d'' hok =>
      absurd hok (hnever reply d'')⟩
    rintro ⟨reply, d'', hok⟩
    exact absurd hok (hnever reply d'')

/-- An upload to the server. -/
def plain : Sent := ⟨"u", "a.py", []⟩

/-- The reply that gives a scan its row. -/
def rowGiven : Reply := .answers (.list [.record [("id", .int 7)]]) .null .null

/-- A store that does not take the number of issues acknowledges the second
call. -/
theorem completed_unless_both_refused_countless :
    ∃ d₀, (plain.enter plainServer).run.run (usualDesk (rowGiven :: countless))
        = (.ok (.int 7), d₀) ∧
      ∃ reply d', (plain.handle openDoors plainServer).run.run
          (usualDesk (rowGiven :: countless)) = (.ok reply, d') ∧
        ∃ calls, d'.ledger.calls.reverse = d₀.ledger.calls.reverse ++ calls ∧
          Acknowledged (.int 7) "completed" (d₀.ledger.exchanges calls) := by
  obtain ⟨d₀, hrow, hreplies, htree⟩ : ∃ d₀,
      (plain.enter plainServer).run.run (usualDesk (rowGiven :: countless))
        = (.ok (.int 7), d₀) ∧
        d₀.ledger.replies = countless ∧
          openDoors d₀.tree (plain.path plainServer)
          = .ok [openDoor .low, openDoor .critical] :=
    ⟨_, rfl, rfl, rfl⟩
  obtain ⟨haccepted, hends⟩ :=
    completed_unless_both_refused openDoors plainServer plain _ d₀ _ hrow
  obtain ⟨reply, d', hok⟩ := haccepted.2 ⟨_, htree, by rw [hreplies]; rfl⟩
  obtain ⟨-, -, findings, rows, hfound, rfl, hcalls, hack⟩ := hends reply d' hok
  obtain rfl := Except.ok.inj (htree.symm.trans hfound)
  exact ⟨d₀, hrow, reply, d', hok, _, hcalls, hack.2 (by rw [hreplies]; rfl)⟩

/-- Replies of a store that gives a scan its row and then does not take the
issues. -/
def issueless : List Reply := [rowGiven, .fails "full"]

/-- Replies of a store that takes the issues and no status. -/
def statusless : List Reply :=
    [rowGiven, .answers .null .null .null, .fails "no", .fails "no"]

/-- A row can stay as it was entered: the upload fails and no status is asked
for, or it answers that the scan is completed and no call that says so was
answered. -/
theorem row_stays_pending :
    (∃ d', (plain.handle openDoors plainServer).run.run (usualDesk issueless)
        = (.error (.refused 500 "Internal server error during file upload"),
          d') ∧
      ∀ call ∈ d'.ledger.calls, ¬ GivesStatus (.int 7) "failed" call) ∧
    ∃ reply d',
      (plain.handle openDoors plainServer).run.run (usualDesk statusless)
        = (.ok reply, d') ∧
      reply.get? "status" = some (.text "completed") ∧
      ¬ Acknowledged (.int 7) "completed"
        ((Ledger.ofReplies statusless).exchanges d'.ledger.calls.reverse) :=
  ⟨⟨_, rfl, not_givesStatus rfl⟩, _, _, rfl, rfl, not_acknowledged rfl⟩

end Sent

end ProductionService

end SourceAudit
