/-
The scan service with accounts: scans are kept in the store if there is one, and in
memory otherwise.
-/
import SourceAudit.Moment.Reading
import SourceAudit.Service.Desk

namespace SourceAudit.AccountService

open Handler Store

def root (w : World) : Value :=
  .record [("message", .text "VibeCodeAuditor API"), ("version", .text "0.2.0"),
    ("database_available", .bool w.stored), ("supabase_configured", .bool w.stored)]

def health (w : World) : Value :=
  .record [("status", .text "healthy"), ("timestamp", .date w.now.iso),
    ("database", .text (if w.stored then "connected" else "unavailable")),
    ("supabase", .text (if w.stored then "configured" else "not_configured"))]

-- =============================================================== users

/-- Who is behind a token; without a store, anyone is. -/
def userOf (w : World) (token : Option String) : Handler Value :=
  match token with
  | none => pure .null
  | some token =>
    if !w.stored then
      pure (.record [("id", .text "anonymous"), ("email", .text "anonymous@example.com")])
    else tryCatch (do
      let user ← ofAction (Action.userOf (.text token))
      if user.isTruthy then return user else refuse 401 "") fun _ =>
        refuse 401 "Invalid authentication credentials"

/-- Who is behind a token; someone has to be. -/
def requiredUser (w : World) (token : Option String) : Handler Value := do
  let user ← userOf w token
  if user.isTruthy then return user else refuse 401 "Authentication required"

-- ============================================================== upload

def numberOf (id : String) : Outcome Int :=
  match Text.numeral? id with
  | some n => .ok n
  | none => .error (.badNumeral id)

/-- The store's id for a new scan of a user. -/
def storedId (w : World) (user : Option User) (config : Option String) : Handler String := do
  let owner ← ofOutcome (User.id user)
  let config ← match config with
    | some text => ofOutcome (Value.ofJson text)
    | none => pure (.record [])
  let name := "Scan " ++ w.now.minuteText
  let id ← ofAction (Service.createScan w.now owner (.text name) config)
  if id.isTruthy then return id.shown
  else refuse 500 "Failed to create scan in database"

/-- Changes the status of a scan in the store. -/
def mark (w : World) (id : Int) (status : String) : Handler Unit := do
  let _ ← ofAction (Service.updateScan w.now (.int id) (.text status) .null .null .null)

def upload (w : World) (files : List (String × List UInt8)) (config : Option String)
    (user : Option User) : Handler Value := do
  let present := User.isPresent user
  let config := config.filter fun text => !text.isEmpty
  let id ← if w.stored && present then storedId w user config else newId
  let folder := folderOf id
  makeFolder folder
  tryCatch (do
    files.forM (saveFile folder)
    let owner ← if present then ofOutcome (User.id user) else pure (.text "anonymous")
    if w.stored then mark w (← ofOutcome (numberOf id)) "running"
    else enter id (.started w.now folder (some owner))
    modify fun d => { d with tasks := d.tasks ++ [⟨id, folder, .usual, user⟩] }
    begun id) fun f => do
      removeFolder folder
      refuse 500 f.message

-- ============================================================ scanning

def resultOf (a : Audit) : ScanResult where
  findings := a.findings
  metadata := .record []
  errors := a.errors.map fun (path, why) => (path, .text why)
  frameworks := ScanResult.frameworksOf a.frameworks
  compliance := a.summary.toValue

def store (w : World) (t : ScanTask) (r : ScanResult) : Handler Unit := do
  let id ← ofOutcome (numberOf t.id)
  let _ ← ofAction (Service.saveIssues w.full (.int id) r.findings)
  let summary ← totals w
  let _ ← ofAction (Service.updateScan w.now (.int id) (.text "completed") summary r.compliance
    (.record r.frameworks))
  if User.isPresent t.user then
    let owner ← ofOutcome (User.id t.user)
    let _ ← ofAction (Service.logEvent owner (.text "scan_completed") (.text "scan") (.int id)
      (.record [("total_issues", Value.ofNat r.findings.length)]))

def audit (w : World) (t : ScanTask) : Handler ScanResult := do
  let auditor ← ofOutcome (Auditor.ofSettings t.settings)
  return resultOf (← ofOutcome (auditor.audit w.full (← get).tree t.folder).1)

def runKept (w : World) (t : ScanTask) : Handler Unit :=
  tryCatch (do
    if w.stored then mark w (← ofOutcome (numberOf t.id)) "running"
    else change t.id fun s => { s with status := "running" }
    tell w t.id "running" 0 ""
    let r ← audit w t
    if w.stored then store w t r
    else change t.id fun s => s.completed w.now r
    tell w t.id "completed" 100 "") fun f => do
      if w.stored then mark w (← ofOutcome (numberOf t.id)) "failed"
      else change t.id fun s => s.failed w.now f.message
      tell w t.id "failed" 0 f.message

/-- Runs a scan; its folder is taken away however it ends. -/
def run (w : World) (t : ScanTask) : Handler Unit := do
  tryCatch (runKept w t) fun f => do
    removeFolder t.folder
    throw f
  removeFolder t.folder

-- ====================================================== stored answers

/-- An answer, or none if the values at hand are of the wrong kind or content. -/
def unlessUnfit {α : Type} (a : Handler (Option α)) : Handler (Option α) :=
  tryCatch a fun f => if f.isUnfit then pure none else throw f

/-- What the store knows of a scan of a user. -/
def storedScan (id : String) (user : Option User) : Handler (Option Value) := do
  let number ← ofOutcome (numberOf id)
  let owner ← if User.isPresent user then ofOutcome (User.id user) else pure .null
  if !owner.isTruthy then return none
  let found ← ofAction (Service.scanResults (.int number) owner)
  return if found.isTruthy then some found else none

/-- A moment in a field of a record, or a stand-in. -/
def momentIn (row : Value) (name : String) (fallback : Value) : Outcome Value := do
  let v ← row.ask name .null
  if !v.isTruthy then return fallback
  match v with
  | .text s =>
    match Moment.ofText? s with
    | some m => return .date m
    | none => .error (.badData ("Invalid isoformat string: " ++ v.quoted))
  | _ => .error (.helperMisuse "fromisoformat: argument must be str")

def storedStatus (w : World) (id : String) (row : Value) : Outcome Value := do
  let status ← row.pick "status"
  let progress ← row.ask "progress" (.int 0)
  let start ← momentIn row "started_at" (.date w.now.iso)
  let finish ← momentIn row "completed_at" .null
  let message ← row.ask "name" (.text "")
  Schema.make Schema.scanStatus
    [("scan_id", .text id), ("status", status), ("progress", progress), ("start_time", start),
     ("end_time", finish), ("message", message)]

/-- A standard in the store as a message; anything that is no record is a name. -/
def storedStandard (v : Value) : Outcome Value :=
  match v with
  | .record fields => Schema.make Schema.standard fields
  | v => Schema.make Schema.standard
    [("id", .text ""), ("name", .text v.shown), ("type", .text ""), ("url", .text "")]

def storedIssue (row : Value) : Outcome Value := do
  let rule ← row.pick "rule_id"
  let severity ← Severity.ofValue "SeverityModel" (← row.pick "severity")
  let message ← row.pick "message"
  let file ← row.pick "file_path"
  let standards ← (← (← row.ask "standards" (.list [])).each).mapM storedStandard
  let get (name : String) (fallback : Value) : Outcome (String × Value) :=
    return (name, ← row.ask name fallback)
  Schema.make Schema.issue
    [("rule_id", rule), ("severity", .text severity.name), ("message", message),
     ("file_path", file), ← get "line_number" .null, ← get "column_number" .null,
     ← get "code_snippet" .null, ← get "remediation" .null,
     ← get "category" (.text "general"), ← get "confidence" (.real 1),
     ← get "metadata" (.record []), ("standards", .list standards),
     ← get "compliance_frameworks" (.list [])]

/-- The answer with the results of a scan, given its row and its issues as messages. -/
def storedAnswer (id : String) (row : Value) (issues : List Value) : Outcome Value := do
  let get (name : String) : Outcome (String × Value) :=
    return (name, ← row.ask name (.record []))
  Schema.make Schema.scanResults
    [("scan_id", .text id), ← get "summary", ("issues", .list issues), ("errors", .record []),
     ← get "detected_frameworks", ← get "compliance_summary"]

def storedResults (id : String) (found : Value) : Outcome Value := do
  let row ← found.pick "scan"
  let issues ← (← (← found.pick "issues").each).mapM storedIssue
  storedAnswer id row issues

-- ============================================================= answers

/-- How far a scan is: from the store, if it knows and the row makes sense. -/
def status (w : World) (id : String) (user : Option User) : Handler Value := do
  let kept ← if w.stored then unlessUnfit (do
      match ← storedScan id user with
      | none => return none
      | some found => some <$> ofOutcome (do storedStatus w id (← found.pick "scan")))
    else pure none
  match kept with
  | some v => return v
  | none => sessionStatus id (← asked id)

/-- A detected framework that is passed on as it is does not fit the message. -/
def unshaped : Value := .bool true

/-- The results of a scan: from the store, if it knows and the rows make sense. -/
def results (w : World) (id : String) (user : Option User) : Handler Value := do
  let kept ← if w.stored then unlessUnfit (do
      match ← storedScan id user with
      | none => return none
      | some found => some <$> ofOutcome (storedResults id found))
    else pure none
  match kept with
  | some v => return v
  | none =>
    let r ← askedResult id
    resultsMessage w id r [] (r.frameworks.map fun (name, _) => (name, unshaped))

def scans (w : World) (user : Option User) : Handler Value := do
  if w.stored then ofAction (Service.userScans (← ofOutcome (User.id user)) (.int 50))
  else return .list []

def cleanup (id : String) : Handler Value := do
  match (← get).sessions.get? id with
  | some s => dismiss id s
  | none => return .record [("message", .text "Scan cleaned up successfully")]

end SourceAudit.AccountService
