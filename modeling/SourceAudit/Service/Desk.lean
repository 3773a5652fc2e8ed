/-
What the handlers of a scan service share: the state they work on, the outside
they know, uploads, sessions and messages to those who follow a scan.
-/
import SourceAudit.Audit.Basic
import SourceAudit.Live.Updates
import SourceAudit.Scan.Security
import SourceAudit.Schema.Message
import SourceAudit.Service.Session
import SourceAudit.Store.Service

namespace SourceAudit

/-- Someone who uses the service. A user that came as a bare record has no
members. -/
structure User where
  fields : List (String × Value)
  isRecord : Bool

namespace User

def isPresent : Option User → Bool
  | none => false
  | some u => !u.isRecord || !u.fields.isEmpty

def id : Option User → Outcome Value
  | none => .error (.noMember "NoneType" "id")
  | some u =>
    if u.isRecord then .error (.noMember "dict" "id")
    else match Value.lookup "id" u.fields with
      | some v => .ok v
      | none => .error (.noMember "SimpleNamespace" "id")

end User

/-- A scan that waits to be run. -/
structure ScanTask where
  id : String
  folder : String
  settings : AuditSettings
  user : Option User

/-- What the service knows of the outside. -/
structure World where
  now : Moment
  box : Toolbox
  /-- Whether results can be gathered and findings have columns. -/
  full : Bool
  /-- The totals of a scan, where they can be counted. -/
  totals : Option Value
  /-- Why the security scan fails, if it does. -/
  failure : Option String
  stored : Bool

/-- What the handlers work on. -/
structure Desk where
  tree : FileTree
  sessions : Sessions
  live : Live
  ledger : Store.Ledger
  tasks : List ScanTask
  /-- How many ids have been given out. -/
  given : Nat

/-- Work on the desk; what was done stays done when it fails. -/
abbrev Handler (α : Type) := ExceptT Fault (StateM Desk) α

namespace Desk

def ofReplies (replies : List Store.Reply) : Desk :=
  ⟨.empty, [], .empty, .ofReplies replies, [], 0⟩

/-- A desk at which nothing was sent or asked since. -/
def cleared (d : Desk) : Desk :=
  { d with live := { d.live with sent := [] }, ledger := { d.ledger with calls := [] } }

end Desk

namespace Handler

def ofOutcome {α : Type} (r : Outcome α) : Handler α :=
  match r with
  | .ok a => pure a
  | .error f => throw f

def ofAction {α : Type} (a : Store.Action α) : Handler α := do
  let (r, ledger) := a.run.run (← get).ledger
  modify fun d => { d with ledger := ledger }
  ofOutcome r

def refuse {α : Type} (status : Int) (detail : String) : Handler α :=
  throw (.refused status detail)

-- ============================================================ sessions

def newId : Handler String := do
  let n := (← get).given + 1
  modify fun d => { d with given := n }
  return "scan-" ++ toString n

def session (id : String) : Handler Session := do
  match (← get).sessions.get? id with
  | some s => return s
  | none => throw (.unknownKey id)

def enter (id : String) (s : Session) : Handler Unit :=
  modify fun d => { d with sessions := d.sessions.put id s }

def change (id : String) (f : Session → Session) : Handler Unit := do
  enter id (f (← session id))

/-- Tells those who follow a scan how it goes. -/
def tell (w : World) (id status : String) (progress : Int) (message : String) : Handler Unit :=
  modify fun d =>
    let live := d.live.update w.now (.text id) (.text status) (.int progress) (.text message)
    { d with live := live }

/-- Runs the scans that wait, in order: how many there were. -/
def runTasks (run : ScanTask → Handler Unit) : Handler Nat := do
  let tasks := (← get).tasks
  modify fun d => { d with tasks := [] }
  tasks.forM run
  return tasks.length

-- ============================================================= uploads

def folderOf (id : String) : String := "vibeaudit_" ++ id ++ "_"

def makeFolder (path : String) : Handler Unit := do
  let (tree, made) := (← get).tree.makeFolder path
  modify fun d => { d with tree := tree }
  ofOutcome made

def makeOne (path : String) : Handler Unit := do
  let tree ← ofOutcome ((← get).tree.makeOne path)
  modify fun d => { d with tree := tree }

def write (path : String) (bytes : List UInt8) : Handler Unit := do
  let tree ← ofOutcome ((← get).tree.write path bytes)
  modify fun d => { d with tree := tree }

def removeFolder (path : String) : Handler Unit :=
  modify fun d => { d with tree := d.tree.remove path }

/-- Saves an uploaded file under its own name, wherever that leads from the folder. -/
def saveFile (folder : String) (file : String × List UInt8) : Handler Unit := do
  let path := Path.join folder file.1
  makeFolder (Path.parent path)
  write path file.2

def begun (id : String) : Handler Value :=
  ofOutcome (Schema.make Schema.scanResponse
    [("scan_id", .text id), ("status", .text "started"),
     ("message", .text "Scan initiated successfully")])

-- ============================================================ answers

def sessionStatus (id : String) (s : Session) : Handler Value :=
  ofOutcome (Schema.make Schema.scanStatus
    [("scan_id", .text id), ("status", .text s.status), ("progress", .int (s.progress.getD 0)),
     ("start_time", .date s.start.iso),
     ("end_time", Value.ofOption (s.finish.map fun m => .date m.iso)),
     ("message", .text (s.message.getD ""))])

def asked (id : String) : Handler Session := do
  match (← get).sessions.get? id with
  | some s => return s
  | none => refuse 404 "Scan not found"

def askedResult (id : String) : Handler ScanResult := do
  let s ← asked id
  if s.status != "completed" then refuse 400 "Scan not completed yet"
  match s.result with
  | some r => return r
  | none => refuse 500 "Results not available"

def totals (w : World) : Handler Value :=
  match w.totals with
  | some v => pure v
  | none => throw (.noMember "AuditResults" "get_summary")

def resultsMessage (w : World) (id : String) (r : ScanResult) (errors : List (String × Value))
    (frameworks : List (String × Value)) : Handler Value := do
  let summary ← totals w
  let issues ← ofOutcome (r.findings.mapM (Schema.ofFinding w.full))
  ofOutcome (Schema.make Schema.scanResults
    [("scan_id", .text id), ("summary", summary), ("issues", .list issues),
     ("errors", .record errors), ("detected_frameworks", .record frameworks),
     ("compliance_summary", r.compliance)])

/-- Takes a session away, and its folder. -/
def dismiss (id : String) (s : Session) : Handler Value := do
  s.folder.forM removeFolder
  modify fun d => { d with sessions := d.sessions.erase id }
  return .record [("message", .text "Scan cleaned up successfully")]

end Handler

end SourceAudit
