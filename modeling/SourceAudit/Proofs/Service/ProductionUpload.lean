/-
An upload answers what it stores, and scanning the stored file again stores the
same.

The rows of a scan and the issues of its answer are two readings of the issues
that the scan reports, each with its own names and stand-ins; `agree_issueReply`
compares them entry by entry. What entering rows asks of the store is fixed by
the rows and by which calls the store fails (`run_record`), and both the upload
and the later scan of the stored file do just that, so their calls agree
whenever the store behaves alike.
-/
import SourceAudit.Proofs.Service.Sessions
import SourceAudit.Service.Production
import Mathlib.Data.List.Forall2

namespace SourceAudit

-- ================================================================ work

namespace Handler

/-- Work that looks at the desk first. -/
theorem run_get_bind {α : Type} (k : Desk → Handler α) (d : Desk) :
    (get >>= k).run.run d = (k d).run.run d := by
  rw [run_bind, run_get]

/-- An action changes the ledger of a desk and nothing else. -/
theorem run_ofAction {α : Type} (a : Store.Action α) (d : Desk) :
    (ofAction a).run.run d
      = ((a.run.run d.ledger).1,
        { d with ledger := (a.run.run d.ledger).2 }) := by
  unfold ofAction
  rw [run_get_bind]
  cases a.run.run d.ledger with
  | mk r l => cases r <;> rfl

/-- Work that ends well does each of its parts well. -/
theorem bind_eq_ok {α β : Type} {h : Handler α} {k : α → Handler β}
    {d d' : Desk} {b : β} (hok : (h >>= k).run.run d = (.ok b, d')) :
    ∃ a d₁, h.run.run d = (.ok a, d₁) ∧ (k a).run.run d₁ = (.ok b, d') := by
  rw [run_bind] at hok
  cases hrun : h.run.run d with
  | mk r d₁ =>
      rw [hrun] at hok
      cases r with
      | ok a => exact ⟨a, d₁, rfl, hok⟩
      | error f => exact absurd (Prod.mk.inj hok).1 (by simp)

theorem run_makeFolder (path : String) (d : Desk) :
    (makeFolder path).run.run d
      = ((d.tree.makeFolder path).2,
        { d with tree := (d.tree.makeFolder path).1 }) := by
  unfold makeFolder
  rw [run_get_bind]
  cases d.tree.makeFolder path with
  | mk tree made => cases made <;> rfl

/-- Work that puts other files in place, or fails and leaves them. -/
theorem run_setTree (f : FileTree → Outcome FileTree) (d : Desk) :
    (do
        let tree ← ofOutcome (f (← get).tree)
        modify fun d => { d with tree := tree } : Handler Unit).run.run d
      = match f d.tree with
        | .ok t => (.ok (), { d with tree := t })
        | .error why => (.error why, d) := by
  rw [run_get_bind, run_bind, run_ofOutcome]
  cases f d.tree <;> rfl

theorem run_makeOne (path : String) (d : Desk) :
    (makeOne path).run.run d
      = match d.tree.makeOne path with
        | .ok t => (.ok (), { d with tree := t })
        | .error why => (.error why, d) :=
  run_setTree (·.makeOne path) d

theorem run_write (path : String) (bytes : List UInt8) (d : Desk) :
    (write path bytes).run.run d
      = match d.tree.write path bytes with
        | .ok t => (.ok (), { d with tree := t })
        | .error why => (.error why, d) :=
  run_setTree (·.write path bytes) d

theorem ledger_makeOne (path : String) (d : Desk) :
    ((makeOne path).run.run d).2.ledger = d.ledger := by
  rw [run_makeOne]
  cases d.tree.makeOne path <;> rfl

theorem ledger_write (path : String) (bytes : List UInt8) (d : Desk) :
    ((write path bytes).run.run d).2.ledger = d.ledger := by
  rw [run_write]
  cases d.tree.write path bytes <;> rfl

end Handler

namespace ProductionService

open Handler Store

-- ==================================================== rows and replies

/-- The columns of a row with the entries of an answer that say the same. -/
def sharedColumns : List (String × String) :=
  [("severity", "severity"), ("category", "issue_type"),
   ("message", "description"), ("file_path", "file_path"),
   ("line_number", "line_number"), ("code_snippet", "code_snippet"),
   ("remediation", "recommendation")]

/-- A row and an answered issue that say the same. -/
def Agree (row reply : Value) : Prop :=
  ∀ c ∈ sharedColumns, ∃ v, row.get? c.1 = some v ∧ reply.get? c.2 = some v

theorem agree_issueReply (scan : Value) (path : String) (number : Nat)
    (issue : Value) :
    Agree (issueRow scan path issue) (issueReply scan path number issue) := by
  unfold Agree sharedColumns
  simp only [List.forall_mem_cons]
  exact ⟨⟨_, rfl, rfl⟩, ⟨_, rfl, rfl⟩, ⟨_, rfl, rfl⟩, ⟨_, rfl, rfl⟩,
    ⟨_, rfl, rfl⟩, ⟨_, rfl, rfl⟩, ⟨_, rfl, rfl⟩, fun _ h =>
      absurd h List.not_mem_nil⟩

theorem forall₂_agree (scan : Value) (path : String) (issues : List Value) :
    List.Forall₂ Agree (issues.map (issueRow scan path))
      (issues.mapIdx (issueReply scan path)) := by
  rw [List.forall₂_iff_get]
  refine ⟨by simp, fun i hrow hreply => ?_⟩
  simp only [List.get_eq_getElem, List.getElem_map, List.getElem_mapIdx]
  exact agree_issueReply scan path i _

/-- A finding as a row. -/
def findingRow (scan : Value) (f : Finding) : Value :=
  .record [("scan_id", scan), ("rule_id", f.rule),
    ("severity", .text f.severity.name), ("category", f.category),
    ("message", f.message), ("file_path", f.file), ("line_number", f.line),
    ("code_snippet", f.snippet), ("remediation", f.remediation)]

/-- Findings have all entries, so that no stand-in is used. -/
theorem map_issueRow_toValue (scan : Value) (path : String)
    (findings : List Finding) :
    (findings.map Finding.toValue).map (issueRow scan path)
      = findings.map (findingRow scan) := by
  rw [List.map_map]
  rfl

/-- Each finding is of one of the levels that are counted. -/
theorem countOf_levels (findings : List Finding) :
    countOf .critical (findings.map Finding.toValue) +
      countOf .high (findings.map Finding.toValue)
      + countOf .medium (findings.map Finding.toValue) +
        countOf .low (findings.map Finding.toValue)
      = findings.length := by
  have hlevel : ∀ (level : Severity) (f : Finding),
      ((f.toValue.get? "severity").bind Value.asText? == some level.name)
        = decide (f.severity = level) := by
    intro level f
    have hname : (f.toValue.get? "severity").bind Value.asText?
        = some f.severity.name := rfl
    rw [hname]
    cases f.severity <;> cases level <;> rfl
  unfold countOf
  simp only [List.countP_map, Function.comp_def, hlevel]
  induction findings with
  | nil => rfl
  | cons f rest ih =>
      simp only [List.countP_cons, List.length_cons]
      cases f.severity <;> simp <;> omega

-- =============================================================== calls

/-- A call that changes the row of a scan. -/
def statusUpdate (scan : Value) (fields : List (String × Value)) : Call :=
  .query (((Query.table "scans").update (.record fields)).eq "id" scan)

/-- The call that enters rows, if there are any. -/
def insertion (rows : List Value) : List Call :=
  if rows.isEmpty then []
    else [.query ((Query.table "issues").insert (.list rows))]

/-- Whether a store with such replies takes rows. -/
def takes (rows : List Value) : List Reply → Bool
  | .fails _ :: _ => rows.isEmpty
  | _ => true

/-- The second call that marks a scan as completed, made just if the first one
fails. -/
def retry (scan : Value) : Option Reply → List Call
  | some (.fails _) => [statusUpdate scan [("status", .text "completed")]]
  | _ => []

/-- The calls that enter the rows of a scan, made to a store that takes them:
the scan is marked as completed with the number of rows, and once more without
if that fails. -/
def recordCalls (scan : Value) (rows : List Value) (replies : List Reply) :
    List Call :=
  insertion rows ++ statusUpdate scan
      [("status", .text "completed"),
        ("total_issues", Value.ofNat rows.length)] ::
    retry scan replies[(insertion rows).length]?

/-- The calls that a scan of a stored file makes: those, or the one that marks
the scan as failed after the one that was refused. -/
def performCalls (scan : Value) (rows : List Value) (replies : List Reply) :
    List Call :=
  if takes rows replies then recordCalls scan rows replies
  else insertion rows ++ [statusUpdate scan [("status", .text "failed")]]

theorem run_updateScan (scan : Value) (fields : List (String × Value))
    (l : Ledger) :
    (updateScan scan fields).run.run l
      = (l.next.rows.map fun _ => (), l.after (statusUpdate scan fields)) := by
  unfold updateScan
  rw [run_bind, Action.run_rows]
  cases l.next.rows <;> rfl

/-- A last call that may fail. -/
theorem run_orElse_updateScan (scan : Value) (fields : List (String × Value))
    (l : Ledger) :
    (Action.orElse (updateScan scan fields) ()).run.run l
      = (.ok (), l.after (statusUpdate scan fields)) := by
  rw [Action.run_orElse, run_updateScan]
  cases l.next.rows <;> rfl

/-- Marking a scan never fails, and tries a second time just if the first call
fails. -/
theorem run_markCompleted (scan : Value) (count : Nat) (l : Ledger) :
    ∃ l', (markCompleted scan count).run.run l = (.ok (), l') ∧
      l'.calls.reverse = l.calls.reverse ++ statusUpdate scan
          [("status", .text "completed"),
            ("total_issues", Value.ofNat count)] ::
        retry scan l.replies[0]? := by
  obtain ⟨replies, calls⟩ := l
  unfold markCompleted
  rw [run_tryCatch, run_updateScan]
  match replies with
  | [] => exact ⟨_, rfl, by simp [Ledger.after, retry]⟩
  | .answers data error user :: rest =>
      exact ⟨_, rfl, by simp [Ledger.after, retry]⟩
  | .fails why :: rest =>
      refine ⟨_, run_orElse_updateScan scan _ _, ?_⟩
      simp [Ledger.after, retry]

theorem record_cons (scan row : Value) (rest : List Value) :
    record scan (row :: rest) = (do
      let _ ← Action.rows ((Query.table "issues").insert (.list (row :: rest)))
      markCompleted scan (row :: rest).length) :=
  rfl

/-- Entering rows makes those calls if the store takes the rows. -/
theorem run_record {rows : List Value} {l : Ledger}
    (h : takes rows l.replies = true) (scan : Value) :
    ∃ l', (record scan rows).run.run l = (.ok (), l') ∧
      l'.calls.reverse = l.calls.reverse ++
        recordCalls scan rows l.replies := by
  cases rows with
  | nil => exact run_markCompleted scan 0 l
  | cons row rest =>
      obtain ⟨l', hrun, hcalls⟩ := run_markCompleted scan (row :: rest).length
        (l.after (.query ((Query.table "issues").insert (.list (row :: rest)))))
      obtain ⟨data, hdata⟩ : ∃ data, l.next.rows = .ok data := by
        unfold Ledger.next
        match hreplies : l.replies with
        | [] => exact ⟨_, rfl⟩
        | .answers data error user :: more => exact ⟨data, rfl⟩
        | .fails why :: more => simp [hreplies, takes] at h
      refine ⟨l', ?_, ?_⟩
      · rw [record_cons, run_bind, Action.run_rows, hdata]
        exact hrun
      · rw [hcalls]
        simp [recordCalls, insertion, Ledger.after]

/-- If it does not, entering them fails with the first call. -/
theorem run_record_refused {rows : List Value} {l : Ledger}
    (h : takes rows l.replies = false) (scan : Value) :
    ∃ why l', (record scan rows).run.run l = (.error why, l') ∧
      l'.calls.reverse = l.calls.reverse ++ insertion rows := by
  match hreplies : l.replies with
  | [] => simp [hreplies, takes] at h
  | .answers data error user :: more => simp [hreplies, takes] at h
  | .fails why :: more =>
      cases rows with
      | nil => simp [hreplies, takes] at h
      | cons row rest =>
          have hnext : l.next.rows = .error (.outside why) := by
            rw [Ledger.next, hreplies]
            rfl
          refine ⟨.outside why,
            l.after
              (.query ((Query.table "issues").insert (.list (row :: rest)))),
              ?_, ?_⟩
          · rw [record_cons, run_bind, Action.run_rows, hnext]
          · simp [insertion]

-- =============================================================== scans

/-- The issues of a scan are the findings as records. -/
theorem run_scanFile (inspect : FileScan) (path : String) (d : Desk) :
    (scanFile inspect path).run.run d
      = ((inspect d.tree path).map fun findings =>
        findings.map Finding.toValue, d) := by
  unfold scanFile
  rw [run_get_bind, run_bind, run_ofOutcome]
  cases inspect d.tree path <;> rfl

theorem uploadChecked_of_uploadWith {inspect : FileScan} {c : ServerSettings}
    {user name : String} {bytes : List UInt8} {d d' : Desk} {reply : Value}
    (h : (uploadWith inspect c user name bytes).run.run d = (.ok reply, d')) :
    (uploadChecked inspect c user name bytes).run.run d = (.ok reply, d') := by
  unfold uploadWith at h
  rw [run_tryCatch] at h
  cases hrun : (uploadChecked inspect c user name bytes).run.run d with
  | mk r d₁ =>
      rw [hrun] at h
      cases r with
      | ok v => exact h
      | error f =>
          -- a failure stays one, explained or not
          have hfailed : ∀ g : Fault, (throw g : Handler Value).run.run d₁
              ≠ (.ok reply, d') := by
            intro g hg
            cases (Prod.mk.inj hg).1
          simp only at h
          split at h
          · exact absurd h (hfailed _)
          · exact absurd h (hfailed _)

/-- What an upload that ends well has done: a row for the scan was asked for and
given, the stored file was scanned, and what was found was entered and
answered. -/
theorem upload_steps {inspect : FileScan} {c : ServerSettings}
    {user name : String} {bytes : List UInt8} {d d' : Desk} {reply : Value}
    (h : (uploadWith inspect c user name bytes).run.run d = (.ok reply, d')) :
    ∃ scan findings,
      inspect d'.tree (storedPath c user name) = .ok findings ∧
      (record scan (findings.map (findingRow scan))).run.run
        (d.ledger.after (.query ((Query.table "scans").insert
          (scanRow user name (storedPath c user name) bytes.length))))
            = (.ok (), d'.ledger) ∧
      reply = uploadReply scan (storedPath c user name)
        (findings.map Finding.toValue) := by
  have hchecked := uploadChecked_of_uploadWith h
  unfold uploadChecked at hchecked
  obtain ⟨_, d₁, hallowed, h₁⟩ := bind_eq_ok hchecked
  obtain ⟨_, d₂, hfolder, h₂⟩ := bind_eq_ok h₁
  obtain ⟨_, d₃, hwritten, h₃⟩ := bind_eq_ok h₂
  obtain ⟨data, d₄, hdata, h₄⟩ := bind_eq_ok h₃
  obtain ⟨scan, d₅, hscan, h₅⟩ := bind_eq_ok h₄
  obtain ⟨issues, d₆, hissues, h₆⟩ := bind_eq_ok h₅
  obtain ⟨_, d₇, hrecord, h₇⟩ := bind_eq_ok h₆
  -- nothing is asked of the store before the row of the scan
  rw [run_ofOutcome] at hallowed
  obtain rfl : d = d₁ := (Prod.mk.inj hallowed).2
  have hledger₂ := ledger_makeOne c.storage.localPath d
  rw [hfolder] at hledger₂
  have hledger₃ := ledger_write (storedPath c user name) bytes d₂
  rw [hwritten, hledger₂] at hledger₃
  rw [run_ofAction, Action.run_rows, hledger₃] at hdata
  obtain ⟨-, rfl⟩ := Prod.mk.inj hdata
  rw [run_ofOutcome] at hscan
  obtain ⟨-, rfl⟩ := Prod.mk.inj hscan
  rw [run_scanFile] at hissues
  obtain ⟨hfound, rfl⟩ := Prod.mk.inj hissues
  rw [run_ofAction] at hrecord
  obtain ⟨hdone, rfl⟩ := Prod.mk.inj hrecord
  obtain ⟨hreply, rfl⟩ := Prod.mk.inj h₇
  cases hinspect : inspect d₃.tree (storedPath c user name) with
  | error why => simp [hinspect, Except.map] at hfound
  | ok findings =>
      simp only [hinspect, Except.map] at hfound
      obtain rfl := Except.ok.inj hfound
      refine ⟨scan, findings, rfl, ?_, (Except.ok.inj hreply).symm⟩
      rw [← map_issueRow_toValue scan (storedPath c user name)]
      exact Prod.ext hdone rfl

/-- A scan of a stored file always ends, and makes those calls. -/
theorem run_performWith {inspect : FileScan} {path : String} {d : Desk}
    {findings : List Finding} (h : inspect d.tree path = .ok findings)
    (scan : Value) :
    ∃ d', (performWith inspect scan path).run.run d = (.ok (), d') ∧
      d'.ledger.calls.reverse = d.ledger.calls.reverse ++
        performCalls scan (findings.map (findingRow scan))
          d.ledger.replies := by
  have hwork : ((do
      let issues ← scanFile inspect path
      ofAction (record scan (issues.map (issueRow scan path)))) :
        Handler Unit).run.run d
        = (ofAction (record scan (findings.map (findingRow scan)))).run.run
          d := by
    rw [run_bind, run_scanFile, h]
    simp only [Except.map, map_issueRow_toValue]
  unfold performWith performCalls
  rw [run_tryCatch, hwork, run_ofAction]
  cases htakes : takes (findings.map (findingRow scan)) d.ledger.replies with
  | true =>
      obtain ⟨l', hrun, hcalls⟩ := run_record htakes scan
      rw [hrun]
      exact ⟨_, rfl, hcalls⟩
  | false =>
      obtain ⟨why, l', hrun, hcalls⟩ := run_record_refused htakes scan
      rw [hrun]
      simp only [run_ofAction, run_orElse_updateScan]
      refine ⟨_, rfl, ?_⟩
      rw [Ledger.calls_after, List.reverse_cons, hcalls, List.append_assoc]
      rfl

/-- However files are scanned, what an upload stores, what it answers and what a
later scan of the stored file stores agree. The rows are those of the findings;
the issues of the answer are as many and say the same, place by place; the
number of issues is theirs in the answer and in the first call that marks the
scan as completed, and the answer shares it out among the levels of severity. A
later scan of the file makes the same calls as the upload did once it had its
row, whichever of those that mark the scan the store fails. -/
theorem upload_agrees_with_perform {inspect : FileScan} {c : ServerSettings}
    {user name : String} {bytes : List UInt8} {d d' : Desk} {reply : Value}
    (h : (uploadWith inspect c user name bytes).run.run d = (.ok reply, d')) :
    ∃ scan findings rows replies,
      inspect d'.tree (storedPath c user name) = .ok findings ∧
      rows = findings.map (findingRow scan) ∧
      d'.ledger.calls.reverse = d.ledger.calls.reverse ++
        .query ((Query.table "scans").insert
          (scanRow user name (storedPath c user name) bytes.length)) ::
        recordCalls scan rows d.ledger.replies.tail ∧
      reply.get? "scan_id" = some scan ∧
      reply.get? "issues" = some (.list replies) ∧
      List.Forall₂ Agree rows replies ∧
      (∃ critical high medium low : Nat,
        reply.get? "summary" = some (.record
          [("total_issues", Value.ofNat rows.length),
           ("severity_breakdown", .record
             [("critical", Value.ofNat critical), ("high", Value.ofNat high),
              ("medium", Value.ofNat medium), ("low", Value.ofNat low)])]) ∧
        critical + high + medium + low = rows.length) ∧
      takes rows d.ledger.replies.tail = true ∧
      ∀ later : Desk, later.tree = d'.tree → ∃ done,
        (performWith inspect scan (storedPath c user name)).run.run later
          = (.ok (), done) ∧
        done.ledger.calls.reverse = later.ledger.calls.reverse ++
          performCalls scan rows later.ledger.replies := by
  obtain ⟨scan, findings, hinspect, hrecord, rfl⟩ := upload_steps h
  -- had the store refused the rows, the upload would not have ended well
  have htakes : takes (findings.map (findingRow scan)) d.ledger.replies.tail
      = true := by
    by_contra hrefused
    obtain ⟨why, l', hrun, -⟩ := run_record_refused (l := d.ledger.after _)
      (Bool.eq_false_iff.2 hrefused) scan
    rw [hrecord] at hrun
    cases (Prod.mk.inj hrun).1
  obtain ⟨l', hrun, hcalls⟩ := run_record (l := d.ledger.after _) htakes scan
  rw [hrecord] at hrun
  obtain rfl : d'.ledger = l' := (Prod.mk.inj hrun).2
  refine ⟨scan, findings, _, _, hinspect, rfl, ?_, rfl, rfl, ?_, ?_, htakes, ?_⟩
  · rw [hcalls, Ledger.calls_after, List.reverse_cons, List.append_assoc]
    rfl
  · rw [← map_issueRow_toValue scan (storedPath c user name)]
    exact forall₂_agree scan (storedPath c user name)
      (findings.map Finding.toValue)
  · refine ⟨_, _, _, _, ?_,
      (countOf_levels findings).trans (List.length_map _).symm⟩
    rw [List.length_map, ← List.length_map Finding.toValue]
    rfl
  · intro later htree
    rw [← htree] at hinspect
    exact run_performWith hinspect scan

/-- A server that keeps uploads where servers usually do. -/
def plainServer : ServerSettings :=
  ⟨"development", false, "INFO", "localhost", 8000, 1, ⟨"", 20, "require", 30⟩,
    ⟨"", "HS256", 3600, ["*"], 10, [".py"], 60⟩, ⟨[], 30, 5, none⟩,
    ⟨"local", "/tmp/vibeauditor", none, none, none, 30⟩,
    ⟨false, none, 587, none, none, none⟩⟩

/-- A finding of a level. -/
def openDoor (level : Severity) : Finding :=
  ⟨.text "open_door", level, .text "security", .text "Open door", .text "a.py",
    .int 1, .null, .text "open", .text "Close it", .real 0.5, .record [],
    none, none⟩

/-- A scan that always finds the same. -/
def openDoors : FileScan := fun _ _ => .ok [openDoor .low, openDoor .critical]

/-- A desk on a system with the usual folders. -/
def usualDesk (replies : List Reply) : Desk :=
  { Desk.ofReplies replies with tree := .usual }

/-- Replies of a store that enters rows but does not take the number of
issues. -/
def countless : List Reply :=
    [.answers .null .null .null, .fails "no such column"]

/-- An upload to such a store makes four calls, and scanning the file again
makes the last three of them. -/
theorem upload_agrees_with_perform_countless :
    ∃ reply d',
      (uploadWith openDoors plainServer "u" "a.py" []).run.run
        (usualDesk (.answers (.list [.record [("id", .int 7)]]) .null .null ::
          countless))
          = (.ok reply, d') ∧
      d'.ledger.calls.length = 4 ∧
      ∃ scan rows replies, rows.length = 2 ∧
      reply.get? "issues" = some (.list replies) ∧
        List.Forall₂ Agree rows replies ∧
        ∃ done,
          (performWith openDoors scan
            (storedPath plainServer "u" "a.py")).run.run
            { d' with ledger := .ofReplies countless } = (.ok (), done) ∧
          done.ledger.calls.reverse = d'.ledger.calls.reverse.drop 1 := by
  obtain ⟨reply, d', hrun⟩ : ∃ reply d',
      (uploadWith openDoors plainServer "u" "a.py" []).run.run
        (usualDesk (.answers (.list [.record [("id", .int 7)]]) .null .null ::
          countless))
          = (.ok reply, d') :=
    ⟨_, _, rfl⟩
  obtain ⟨scan, findings, rows, replies, hfound, hrows, hcalls, -, hissues,
      hagree, -, -, hlater⟩ :=
    upload_agrees_with_perform hrun
  obtain rfl : [openDoor .low, openDoor .critical] = findings :=
    Except.ok.inj hfound
  obtain ⟨done, hdone, hsame⟩ :=
    hlater { d' with ledger := .ofReplies countless } rfl
  refine ⟨reply, d', hrun, ?_, scan, rows, replies, by rw [hrows]; rfl, hissues,
    hagree, done, hdone, ?_⟩
  · rw [← List.length_reverse, hcalls, hrows]
    rfl
  · rw [hsame, hcalls, hrows]
    rfl

end ProductionService

end SourceAudit
