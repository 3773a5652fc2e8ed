/-
The scan service that keeps its sessions in memory: files are uploaded, scanned by
the security scan, and the results can be asked for until they are cleaned up.
-/
import SourceAudit.Service.Demo
import SourceAudit.Service.Desk

namespace SourceAudit.MemoryService

open Handler

def root : Value :=
  .record [("message", .text "VibeCodeAuditor API"), ("version", .text "0.1.0")]

def health (w : World) : Value :=
  .record [("status", .text "healthy"), ("timestamp", .date w.now.iso)]

-- ============================================================== upload

/-- The settings an upload asks for; an empty text asks for nothing. -/
def settingsOf (config : Option String) : Outcome AuditSettings :=
  match config.filter fun text => !text.isEmpty with
  | some text => AuditSettings.ofJson text
  | none => .ok .usual

/-- Saves files and begins a scan of them. If that fails, nothing of it is left. -/
def upload (w : World) (files : List (String × List UInt8)) (config : Option String) :
    Handler Value := do
  let id ← newId
  let folder := folderOf id
  makeFolder folder
  tryCatch (do
    files.forM (saveFile folder)
    let settings ← ofOutcome (settingsOf config)
    enter id (.started w.now folder none)
    modify fun d => { d with tasks := d.tasks ++ [⟨id, folder, settings, none⟩] }
    begun id) fun f => do
      removeFolder folder
      refuse 500 f.message

-- ============================================================ scanning

def codeEndings : List String :=
  [".py", ".js", ".jsx", ".ts", ".tsx", ".java", ".go", ".rb", ".php", ".c", ".cpp", ".h", ".cs",
   ".swift", ".kt"]

/-- The files that are scanned whatever their ending. -/
def packageFiles : List String := ["requirements.txt", "package.json", "Pipfile"]

def isScanned (path : String) : Bool :=
  codeEndings.contains (Text.lower (Path.ending path)) || packageFiles.contains (Path.name path)

def filesOf (tree : FileTree) (target : String) : List String :=
  (if tree.isFile target then [target] else tree.filesBelow target).filter isScanned

/-- What is entered about a scan that ended. -/
def scanMetadata (files : List String) : Value :=
  .record [("files_scanned", Value.ofNat files.length),
    ("scanners_used", Value.texts (Scanner.all.map Scanner.name)),
    ("scan_duration", .text "real-time")]

/-- The finding that stands in for those of a scan that failed. -/
def standIn (files : List String) : Finding where
  rule := .text "fallback_demo"
  severity := .high
  category := .text "security"
  message := .text "Demo security issue (real scanner unavailable)"
  file := .text (files.headD "demo.py")
  line := .int 1
  column := .null
  snippet := .text "# Demo code"
  remediation := .text "This is a fallback demo issue"
  confidence := .real 0.5
  metadata := .record [("demo", .bool true)]
  standards := none
  frameworks := none

def fallback (w : World) (files : List String) (why : Fault) : Outcome ScanResult :=
  if w.full then
    .ok { ScanResult.ofFindings [standIn files] with
      errors := [("scanner", .text ("Real scanner failed: " ++ why.message))] }
  else .error (.noMember "AuditResults" "add_error")

/-- What the security scan gives for files. -/
def search (w : World) (tree : FileTree) (files : List String) : Outcome (List Finding) :=
  match w.failure with
  | some why => .error (.outside why)
  | none => .ok (SecurityScan.scan w.box tree files)

/-- The result of a scan that found something. -/
def gathered (files : List String) (findings : List Finding) : ScanResult :=
  { ScanResult.ofFindings findings with metadata := scanMetadata files }

-- ============================================================= running

/-- How far the run of a scan is. At each point it waits for something outside, and
what others do meanwhile it finds done when it goes on. -/
inductive Point where
  /-- Waits for its turn. -/
  | queued
  /-- Tells that it has begun. -/
  | opened
  /-- Tells that it knows its files. -/
  | listed (files : List String)
  /-- Waits for the security scan. -/
  | searching (files : List String)
  /-- Tells that the security scan is through. -/
  | searched (files : List String) (findings : List Finding)
  /-- Tells how it ended. -/
  | closing
  | ended

/-- How many stretches of work are ahead. -/
def Point.ahead : Point → Nat
  | .queued => 6
  | .opened => 5
  | .listed _ => 4
  | .searching _ => 3
  | .searched _ _ => 2
  | .closing => 1
  | .ended => 0

/-- The files the security scan is asked for. -/
def Point.files : Point → List String
  | .listed files | .searching files | .searched files _ => files
  | _ => []

/-- A message about a scan sets out to those who follow it. -/
def announce (w : World) (id status : String) (progress : Int) (message : String) :
    Handler (Option Broadcast) := do
  let text := Live.updateMessage w.now (.text id) (.text status) (.int progress) (.text message)
  return (← get).live.announce id text

def complete (w : World) (t : ScanTask) (r : ScanResult) : Handler (Point × Option Broadcast) := do
  change t.id fun s => s.completed w.now r
  return (.closing, ← announce w t.id "completed" 100 "")

/-- Work on a scan; if it fails, so does the scan. -/
def guarded (w : World) (t : ScanTask) (work : Handler (Point × Option Broadcast)) :
    Handler (Point × Option Broadcast) :=
  tryCatch work fun f => do
    change t.id fun s => s.failed w.now f.message
    return (.closing, ← announce w t.id "failed" 0 f.message)

/-- The stretch of work from one point of a run to the next, with the message that
sets out at its end. `found` is what the security scan gave, where it was waited
for. -/
def advance (w : World) (t : ScanTask) (found : Outcome (List Finding)) :
    Point → Handler (Point × Option Broadcast)
  | .queued => guarded w t do
    change t.id fun s => { s with status := "scanning" }
    return (.opened, ← announce w t.id "scanning" 0 "")
  | .opened => guarded w t do
    let _ ← ofOutcome (Auditor.ofSettings t.settings)
    let files := filesOf (← get).tree t.folder
    change t.id fun s => { s with progress := some 10 }
    return (.listed files, ← announce w t.id "scanning" 10 "")
  | .listed files => return (.searching files, none)
  | .searching files => guarded w t <| tryCatch (do
      let findings ← ofOutcome found
      change t.id fun s => { s with progress := some 90 }
      return (.searched files findings, ← announce w t.id "scanning" 90 ""))
      fun why => do complete w t (← ofOutcome (fallback w files why))
  | .searched files findings => guarded w t (complete w t (gathered files findings))
  | .closing | .ended => return (.ended, none)

/-- A message on its way goes to all followers without a pause. -/
def deliver (b : Broadcast) : Handler Unit :=
  modify fun d => { d with live := (d.live.deliver d.live.reaches b).1 }

/-- So many stretches of a run in a row, with nothing else done in between. -/
def runFrom (w : World) (t : ScanTask) : Nat → Point → Handler Unit
  | 0, _ => return
  | stretches + 1, point => do
    let found := search w (← get).tree point.files
    let (next, news) ← advance w t found point
    news.forM deliver
    runFrom w t stretches next

/-- Runs a scan and enters what it gave in its session. -/
def run (w : World) (t : ScanTask) : Handler Unit :=
  runFrom w t Point.queued.ahead .queued

-- ============================================================= answers

def status (id : String) : Handler Value := do
  sessionStatus id (← asked id)

def results (w : World) (id : String) : Handler Value := do
  let r ← askedResult id
  let frameworks ← ofOutcome (r.frameworks.mapM fun (name, f) => do
    return (name, ← Schema.ofFramework f))
  resultsMessage w id r r.errors frameworks

def cleanup (id : String) : Handler Value := do
  dismiss id (← asked id)

def rules : Outcome Value :=
  return .list (← Rule.all.mapM Schema.ofRule)

def defaultSettings : Outcome Value :=
  Schema.ofSettings .usual

end SourceAudit.MemoryService
