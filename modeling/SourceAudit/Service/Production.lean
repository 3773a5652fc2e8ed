/-
The production server: an uploaded file is scanned at once, and scans and issues
are rows of the store.
-/
import SourceAudit.Service.Desk
import SourceAudit.Settings.Server

namespace SourceAudit.ProductionService

open Handler Store

def title : String := "VibeCodeAuditor API"

def version : String := "1.0.0"

def root : Value :=
  .record [("message",
    .text "Welcome to VibeCodeAuditor API. Visit /docs for API documentation.")]

def health (c : ServerSettings) : Value :=
  .record [("status", .text "healthy"), ("environment", .text c.environment),
    ("version", .text version), ("scanners_available", Value.texts c.scanner.enabled)]

/-- Who is behind a token: anyone whose token is long enough. -/
def userOf (token : Option String) : Outcome Value :=
  if (token.getD "").length < 10 then .error (.refused 401 "Could not validate credentials")
  else .ok (.record
    [("user_id", .text "authenticated_user"), ("email", .text "user@example.com")])

-- ==================================================== rows and replies

/-- The first of several entries of an issue that is there, or a stand-in. -/
def entryOf (issue : Value) (names : List String) (fallback : Value) : Value :=
  (names.findSome? fun name => issue.get? name).getD fallback

/-- An issue of the file at a path as a row of the store. -/
def issueRow (scan : Value) (path : String) (issue : Value) : Value :=
  .record [("scan_id", scan),
    ("rule_id", entryOf issue ["rule_id", "type"] (.text "unknown")),
    ("severity", entryOf issue ["severity"] (.text "medium")),
    ("category", entryOf issue ["category", "type"] (.text "security")),
    ("message", entryOf issue ["description", "message"] (.text "")),
    ("file_path", entryOf issue ["file_path"] (.text path)),
    ("line_number", entryOf issue ["line_number"] .null),
    ("code_snippet", entryOf issue ["code_snippet"] .null),
    ("remediation", entryOf issue ["recommendation", "remediation"] (.text ""))]

/-- An issue of the file at a path as it is answered, with its number. -/
def issueReply (scan : Value) (path : String) (number : Nat) (issue : Value) : Value :=
  .record [("id", .text (toString number)), ("scan_id", scan),
    ("severity", entryOf issue ["severity"] (.text "medium")),
    ("issue_type", entryOf issue ["category", "type"] (.text "security")),
    ("description", entryOf issue ["description", "message"] (.text "")),
    ("file_path", entryOf issue ["file_path"] (.text path)),
    ("line_number", entryOf issue ["line_number"] .null),
    ("code_snippet", entryOf issue ["code_snippet"] .null),
    ("recommendation", entryOf issue ["recommendation", "remediation"] (.text ""))]

def countedLevels : List Severity := [.critical, .high, .medium, .low]

def countOf (level : Severity) (issues : List Value) : Nat :=
  issues.countP fun issue => (issue.get? "severity").bind Value.asText? == some level.name

def breakdown (issues : List Value) : Value :=
  .record (countedLevels.map fun level => (level.name, Value.ofNat (countOf level issues)))

def uploadReply (scan : Value) (path : String) (issues : List Value) : Value :=
  .record [("scan_id", scan), ("status", .text "completed"),
    ("message", .text "File uploaded and scanned successfully"),
    ("issues", .list (issues.mapIdx (issueReply scan path))),
    ("summary", .record [("total_issues", Value.ofNat issues.length),
      ("severity_breakdown", breakdown issues)]),
    ("compliance_summary", .record []), ("detected_frameworks", .record [])]

-- =============================================================== scans

def updateScan (scan : Value) (fields : List (String × Value)) : Action Unit := do
  let _ ← Action.rows (((Query.table "scans").update (.record fields)).eq "id" scan)

/-- Marks a scan as completed: with the number of issues, or without if the store
does not take that; it may not take either. -/
def markCompleted (scan : Value) (count : Nat) : Action Unit :=
  tryCatch (updateScan scan
    [("status", .text "completed"), ("total_issues", Value.ofNat count)]) fun _ =>
      Action.orElse (updateScan scan [("status", .text "completed")]) ()

/-- Enters the rows of a scan, if there are any, and marks it as completed. -/
def record (scan : Value) (rows : List Value) : Action Unit := do
  if !rows.isEmpty then
    let _ ← Action.rows ((Query.table "issues").insert (.list rows))
  markCompleted scan rows.length

/-- A scan of one file of a tree: what it finds, unless it fails. -/
abbrev FileScan := FileTree → String → Outcome (List Finding)

def securityScan (w : World) : FileScan := fun tree path =>
  .ok (SecurityScan.scan w.box tree [path])

/-- The issues that the results of a scan of a file report. -/
def scanFile (inspect : FileScan) (path : String) : Handler (List Value) := do
  let findings ← ofOutcome (inspect (← get).tree path)
  return ((Value.record (resultsRecord findings (.record []))).getD "issues" (.list [])).items

-- ============================================================== upload

def scanRow (user name path : String) (size : Nat) : Value :=
  .record [("user_id", .text user), ("name", .text name),
    ("description", .text ("Security scan of " ++ name)), ("status", .text "pending"),
    ("file_count", .int 1),
    ("config", .record [("file_path", .text path), ("file_size", Value.ofNat size)])]

def storedPath (c : ServerSettings) (user name : String) : String :=
  Path.join c.storage.localPath (user ++ "_" ++ name)

def checkUpload (c : ServerSettings) (name : String) (size : Nat) : Outcome Unit := do
  let ending := Text.lower (Path.ending name)
  if !c.security.fileTypes.contains ending then
    .error (.refused 400 ("File type " ++ ending ++ " not supported"))
  if c.security.maxFileSize < (size : Int) then
    .error (.refused 400 "File size exceeds maximum allowed size")

/-- Stores a file, scans it and enters what was found. -/
def uploadChecked (inspect : FileScan) (c : ServerSettings) (user name : String)
    (bytes : List UInt8) : Handler Value := do
  ofOutcome (checkUpload c name bytes.length)
  makeOne c.storage.localPath
  let path := storedPath c user name
  write path bytes
  let data ← ofAction (Action.rows ((Query.table "scans").insert
    (scanRow user name path bytes.length)))
  let scan ← ofOutcome (do (← first data).pick "id")
  let issues ← scanFile inspect path
  ofAction (record scan (issues.map (issueRow scan path)))
  return uploadReply scan path issues

/-- Takes an upload and scans it in some way; whatever fails apart from a refusal is not
explained. -/
def uploadWith (inspect : FileScan) (c : ServerSettings) (user name : String)
    (bytes : List UInt8) : Handler Value :=
  tryCatch (uploadChecked inspect c user name bytes) fun f =>
    match f with
    | .refused _ _ => throw f
    | _ => refuse 500 "Internal server error during file upload"

def upload (w : World) (c : ServerSettings) (user name : String) (bytes : List UInt8) :
    Handler Value :=
  uploadWith (securityScan w) c user name bytes

/-- Scans a stored file in some way and enters what was found; a failure is entered
too. -/
def performWith (inspect : FileScan) (scan : Value) (path : String) : Handler Unit :=
  tryCatch (do
    let issues ← scanFile inspect path
    ofAction (record scan (issues.map (issueRow scan path)))) fun _ =>
      ofAction (Action.orElse (updateScan scan [("status", .text "failed")]) ())

/-- Scans a stored file and enters what was found. -/
def perform (w : World) (scan : Value) (path : String) : Handler Unit :=
  performWith (securityScan w) scan path

-- ============================================================= answers

def issueShape : Schema.Shape :=
  .fields [Schema.needed "id" .text, Schema.needed "scan_id" .text,
    Schema.needed "severity" .text, Schema.needed "issue_type" .text,
    Schema.needed "description" .text, Schema.needed "file_path" .text,
    Schema.maybe "line_number" Schema.anyWhole, Schema.maybe "code_snippet" .text,
    Schema.maybe "recommendation" .text]

def resultsShape : Schema.Shape :=
  .fields [Schema.needed "scan_id" .text, Schema.needed "status" .text,
    Schema.needed "issues" (.list issueShape), Schema.needed "summary" .pairs]

def issueOfRow (row : Value) : Outcome Value := do
  let columns := [("id", "id"), ("scan_id", "scan_id"), ("severity", "severity"),
    ("issue_type", "category"), ("description", "message"), ("file_path", "file_path"),
    ("line_number", "line_number"), ("code_snippet", "code_snippet"),
    ("recommendation", "remediation")]
  Schema.make issueShape (← columns.mapM fun (name, column) => do
    return (name, ← row.pick column))

/-- How often each severity occurs, in the order of appearance. -/
def severityCounts (issues : List Value) : Value :=
  let words := issues.map fun i => (i.getD "severity" .null).shown
  .record (words.eraseDups.map fun word => (word, Value.ofNat (words.count word)))

/-- The results of a scan, given its row and those of its issues. -/
def resultsOfRows (scan : String) (row issueRows : Value) : Outcome Value := do
  let issues ← (← issueRows.each).mapM issueOfRow
  Schema.make resultsShape
    [("summary", .record [("total_issues", Value.ofNat issues.length),
      ("severity_breakdown", severityCounts issues), ("scan_duration", .null),
      ("file_name", ← row.pick "name")]),
     ("scan_id", .text scan), ("status", ← row.pick "status"), ("issues", .list issues)]

def results (scan : String) : Handler Value :=
  tryCatch (do
    let data ← ofAction (Action.rows (((Query.table "scans").select "*").eq "id" (.text scan)))
    if !data.isTruthy then refuse 404 "Scan not found"
    let row ← ofOutcome (first data)
    let issues ← ofAction (Action.rows
      (((Query.table "issues").select "*").eq "scan_id" (.text scan)))
    ofOutcome (resultsOfRows scan row issues)) fun f =>
      match f with
      | .refused _ _ => throw f
      | _ => refuse 500 "Internal server error"

def scansOf (user : String) : Handler Value :=
  tryCatch (do
    let data ← ofAction (Action.rows
      ((((Query.table "scans").select "*").eq "user_id" (.text user)).latest "created_at"))
    return .record [("scans", data)]) fun _ => refuse 500 "Internal server error"

-- ============================================================ failures

def statusReply (status detail : Value) : Value :=
  .record [("status_code", status),
    ("content", .record [("detail", detail), ("status_code", status)])]

/-- The answer to any failure that is not a refusal. -/
def failureReply : Value :=
  statusReply (.int 500) (.text "Internal server error")

-- ============================================================= running

/-- Makes the folders the server works in; each part that cannot be had stops it. -/
def start (c : ServerSettings) (clientFailure scannerFailure : Option String) :
    Handler Value := do
  for failure in [clientFailure, scannerFailure] do
    if let some why := failure then throw (.outside why)
  let temporary := (c.scanner.tempFolder.filter fun p => !p.isEmpty).getD "/tmp/vibeauditor"
  for folder in [c.storage.localPath, temporary, "logs"] do
    makeFolder folder
  let tree := (← get).tree
  return .list [.bool true, .bool (tree.exists? c.storage.localPath), .bool (tree.exists? "logs")]

def trustedHosts : List String := ["localhost", "127.0.0.1", "*.yourdomain.com"]

/-- What stands between requests and their handlers. -/
def middleware (c : ServerSettings) : List Value :=
  .record [("allow_origins", Value.texts c.security.origins), ("allow_credentials", .bool true),
      ("allow_methods", Value.texts ["GET", "POST", "PUT", "DELETE"]),
      ("allow_headers", Value.texts ["*"])] ::
    (if c.environment == "production" then
      [.record [("allowed_hosts", Value.texts trustedHosts)]] else [])

def serving (c : ServerSettings) : Value :=
  .record [("host", .text c.host), ("port", .int c.port),
    ("workers", .int (if c.environment == "production" then c.workers else 1)),
    ("log_level", .text (Text.lower c.logLevel)), ("reload", .bool c.debug)]

end SourceAudit.ProductionService
