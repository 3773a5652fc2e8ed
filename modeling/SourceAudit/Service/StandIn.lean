/-
Two services that stand in for the real one: they take uploads and answer with
made-up issues. One takes a file at a time and remembers its scans, the other takes
many files and remembers nothing.
-/
import SourceAudit.Store.Service
import SourceAudit.Value.Census

namespace SourceAudit

/-- What a service that stands in remembers. -/
structure StandIn where
  scans : List (String × Value)
  issues : List (String × Value)
  /-- How many ids have been given out. -/
  given : Nat
  /-- What was printed, the last first. -/
  printed : List String

/-- A file that is uploaded: its name, and its content or why it cannot be read. -/
structure Upload where
  name : Value
  content : Except String (List UInt8)

namespace StandIn

/-- A service that has taken nothing yet. -/
def empty : StandIn := ⟨[], [], 0, []⟩

/-- Work of the service; what was done stays done when it fails. -/
abbrev Handling (α : Type) := ExceptT Fault (StateM StandIn) α

def ofOutcome {α : Type} (r : Outcome α) : Handling α :=
  match r with
  | .ok a => pure a
  | .error f => throw f

def say (line : String) : Handling Unit :=
  modify fun s => { s with printed := line :: s.printed }

def newId : Handling String := do
  let n := (← get).given + 1
  modify fun s => { s with given := n }
  return "id-" ++ toString n

def enter (scans issues : List (String × Value)) : Handling Unit :=
  modify fun s =>
    { s with scans := Value.putAll s.scans scans, issues := Value.putAll s.issues issues }

/-- Work whose failures are printed and refused; a refusal stays as it is. -/
def guarded (title : String) (h : Handling Value) : Handling Value :=
  tryCatch h fun f =>
    match f with
    | .refused _ _ => throw f
    | f => do
      say ("❌ " ++ title ++ ": " ++ f.message)
      throw (.refused 500 f.message)

/-- How pages of other sites may use a service. -/
def sharing (origins methods : List String) : Value :=
  .record [("allow_origins", Value.texts origins), ("allow_credentials", .bool true),
    ("allow_methods", Value.texts methods), ("allow_headers", Value.texts ["*"])]

-- ======================================================= one at a time

namespace Single

def health : Value :=
  .record [("status", .text "healthy"), ("environment", .text "development"),
    ("version", .text "1.0.0"),
    ("scanners_available", Value.texts ["bandit", "semgrep", "eslint"])]

/-- How pages of other sites may use the service. -/
def middleware : Value :=
  .list [sharing ["http://localhost:3000", "http://127.0.0.1:3000"] ["GET", "POST", "PUT", "DELETE"]]

/-- A made-up issue in a file. -/
structure Issue where
  severity : String
  kind : String
  description : String
  line : Int
  snippet : String
  recommendation : String

def madeUp : List Issue :=
  [⟨"high", "security", "Potential SQL injection vulnerability detected", 42,
     "SELECT * FROM users WHERE id = user_input_placeholder",
     "Use parameterized queries to prevent SQL injection"⟩,
   ⟨"medium", "security", "Hardcoded API key found", 15, "API_KEY = 'sk-1234567890abcdef'",
     "Store API keys in environment variables"⟩,
   ⟨"low", "code_quality", "Unused variable detected", 28, "unused_var = calculate_something()",
     "Remove unused variables to improve code quality"⟩]

def Issue.toValue (i : Issue) (id scan : String) (file : Value) : Value :=
  .record [("id", .text id), ("scan_id", .text scan), ("severity", .text i.severity),
    ("issue_type", .text i.kind), ("description", .text i.description), ("file_path", file),
    ("line_number", .int i.line), ("code_snippet", .text i.snippet),
    ("recommendation", .text i.recommendation)]

def scanRecord (now : Moment) (id : String) (user file : Value) (size : Nat) : Value :=
  .record [("id", .text id), ("user_id", user), ("filename", file), ("status", .text "completed"),
    ("file_size", Value.ofNat size), ("created_at", .text now.iso),
    ("completed_at", .text now.iso), ("issues_count", .int 3)]

/-- Takes a file: the made-up issues in it. -/
def scan (now : Moment) (upload : Upload) (user : Value) : Handling Value :=
  guarded "Mock scan error" do
    let id ← newId
    let size ← match upload.content with
      | .ok bytes => pure bytes.length
      | .error reason => throw (.system reason)
    enter [(id, scanRecord now id user upload.name size)] []
    let issues ← madeUp.mapM fun i => do return i.toValue (← newId) id upload.name
    enter [] [(id, .list issues)]
    say ("✅ Mock scan created: " ++ id ++ " for file: " ++ upload.name.shown)
    return .record
      [("scan_id", .text id), ("status", .text "completed"),
       ("message", .text "File uploaded and scanned successfully"), ("issues", .list issues),
       ("summary", .record
         [("total_issues", .int 3),
          ("severity_breakdown", .record [("high", .int 1), ("medium", .int 1), ("low", .int 1)])]),
       ("compliance_summary", .record []), ("detected_frameworks", .record [])]

def severities : Census → List Value → Outcome Census
  | done, [] => .ok done
  | done, issue :: rest => do
    severities (← done.add (← issue.pick "severity")) rest

def resultsOf (id : String) (scan issues : Value) : Outcome Value := do
  let counts ← severities [] (← issues.each)
  let total ← Store.size issues
  let summary : Value := .record
    [("total_issues", Value.ofNat total), ("severity_breakdown", counts.toValue),
     ("scan_duration", .text "2.3s"), ("file_name", ← scan.pick "filename")]
  return .record [("scan_id", .text id), ("status", ← scan.pick "status"), ("issues", issues),
    ("summary", summary)]

/-- The results of a scan, which has to be known. -/
def results (id : String) : Handling Value :=
  guarded "Error getting scan results" do
    let s ← get
    match Value.lookup id s.scans with
    | none => throw (.refused 404 "Scan not found")
    | some scan => ofOutcome (resultsOf id scan ((Value.lookup id s.issues).getD (.list [])))

def scansOf (user : Value) : Handling Value :=
  guarded "Error listing scans" do
    let scans := (← get).scans.map Prod.snd
    let users ← ofOutcome (scans.mapM fun scan => scan.pick "user_id")
    return .record [("scans", .list ((scans.zip users).filterMap fun (scan, u) =>
      if u.same user then some scan else none))]

end Single

-- ============================================================= many

namespace Many

def health (now : Moment) : Value :=
  .record [("status", .text "healthy"), ("timestamp", .text now.iso)]

def middleware : Value :=
  .list [sharing ["http://localhost:3001", "http://localhost:3000"] ["*"]]

def issue (title description severity : String) (file : Value) (line : Int)
    (recommendation : String) : Value :=
  .record [("title", .text title), ("description", .text description),
    ("severity", .text severity), ("type", .text "security"), ("file", file), ("line", .int line),
    ("recommendation", .text recommendation)]

/-- Whether a file is a script, judged by its name. -/
def isScript (name : Value) : Outcome Bool :=
  match name with
  | .text s => .ok (Text.endsWith ".js" s)
  | v => .error (.noMember v.kind "endswith")

def touched (name : String) (count : Int) : Value :=
  .record [("name", .text name), ("count", .int count)]

/-- Takes files: the made-up issues in the first of them. -/
def upload (files : List Upload) : Handling Value := do
  say ("📁 Received " ++ toString files.length ++ " files for scanning")
  let id ← newId
  let names := files.map Upload.name
  let areScripts ← ofOutcome (names.mapM isScript)
  let scripts := (names.zip areScripts).filterMap fun (n, is) => if is then some n else none
  let file := names.headD (.text "test.js")
  say ("✅ Mock scan completed for scan ID: " ++ id)
  return .record
    [("scan_id", .text id), ("status", .text "completed"),
     ("message", .text "Scan completed successfully"),
     ("summary", .record
       [("total_issues", .int 3), ("critical", .int 1), ("high", .int 1), ("medium", .int 1),
        ("low", .int 0), ("files_scanned", Value.ofNat files.length)]),
     ("compliance_summary", .record
       [("ISO 27001", touched "ISO 27001" 2), ("OWASP", touched "OWASP Top 10" 2),
        ("GDPR", touched "GDPR" 1)]),
     ("detected_frameworks", .record
       [("javascript", .record
         [("name", .text "JavaScript"), ("type", .text "language"), ("confidence", .real 0.95),
          ("files", .list scripts)])]),
     ("issues", .list
       [issue "Hardcoded API Key Detected"
          "A hardcoded API key was found in the source code. This poses a security risk."
          "critical" file 15
          "Move API keys to environment variables or secure configuration files.",
        issue "SQL Injection Vulnerability"
          "Potential SQL injection vulnerability detected in database query."
          "high" file 42
          "Use parameterized queries or prepared statements to prevent SQL injection.",
        issue "Missing Input Validation"
          "User input is not properly validated before processing."
          "medium" file 28
          "Implement proper input validation and sanitization."])]

end Many

end StandIn

end SourceAudit
