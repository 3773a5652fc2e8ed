/-
The messages of the web service: their shapes, and how findings, rules and
settings become such messages.
-/
import SourceAudit.Schema.Shape
import SourceAudit.Settings.Audit
import SourceAudit.Standard.Catalogue

namespace SourceAudit.Schema

def needed (name : String) (shape : Shape) : String × Shape × Option Value := (name, shape, none)

/-- A field with a value of its own. -/
def usually (name : String) (shape : Shape) (v : Value) : String × Shape × Option Value :=
  (name, shape, some v)

/-- A field that may be absent. -/
def maybe (name : String) (shape : Shape) : String × Shape × Option Value :=
  (name, .optional shape, some .null)

def severity : Shape := .choice (Severity.all.map Severity.name)

def anyWhole : Shape := .whole none none

-- ============================================================== shapes

def standard : Shape :=
  .fields [needed "id" .text, needed "name" .text, needed "type" .text, needed "url" .text,
    maybe "section" .text]

def issue : Shape :=
  .fields [needed "rule_id" .text, needed "severity" severity, needed "message" .text,
    needed "file_path" .text, maybe "line_number" anyWhole, maybe "column_number" anyWhole,
    maybe "code_snippet" .text, maybe "remediation" .text,
    usually "category" .text (.text "general"), usually "confidence" .real (.real 1),
    usually "metadata" (.table .anything) (.record []),
    usually "standards" (.list standard) (.list []),
    usually "compliance_frameworks" (.list .text) (.list [])]

def rule : Shape :=
  .fields [needed "id" .text, needed "name" .text, needed "description" .text,
    needed "category" .text, needed "severity" severity, usually "enabled" .switch (.bool true),
    usually "languages" (.list .text) (.list []), usually "tags" (.list .text) (.list [])]

def settings : Shape :=
  .fields [usually "min_severity" severity (.text "medium"),
    usually "enabled_rules" (.list .text) (.list []),
    usually "disabled_rules" (.list .text) (.list []),
    usually "exclude_patterns" (.list .text) (.list []),
    usually "include_patterns" (.list .text) (.list []),
    usually "max_issues_per_file" anyWhole (.int 50),
    usually "include_code_snippets" .switch (.bool true),
    usually "show_remediation" .switch (.bool true),
    usually "check_data_privacy" .switch (.bool true),
    usually "check_model_security" .switch (.bool true),
    usually "check_bias_detection" .switch (.bool true)]

def scanRequest : Shape :=
  .fields [maybe "config" settings, maybe "webhook_url" .text]

def scanResponse : Shape :=
  .fields [needed "scan_id" .text, needed "status" .text, needed "message" .text]

def scanStatus : Shape :=
  .fields [needed "scan_id" .text, needed "status" .text,
    needed "progress" (.whole (some 0) (some 100)), needed "start_time" .moment,
    maybe "end_time" .moment, usually "message" .text (.text "")]

def scanSummary : Shape :=
  .fields (["total_issues", "critical", "high", "medium", "low", "files_scanned",
    "files_with_errors"].map fun name => needed name anyWhole)

def framework : Shape :=
  .fields [needed "name" .text, needed "type" .text, needed "confidence" .real,
    usually "files" (.list .text) (.list [])]

def scanResults : Shape :=
  .fields [needed "scan_id" .text, needed "summary" scanSummary, needed "issues" (.list issue),
    usually "errors" (.table .text) (.record []),
    usually "detected_frameworks" (.table framework) (.record []),
    usually "compliance_summary" (.table .pairs) (.record [])]

/-- A message to those who follow a scan. -/
def liveMessage : Shape :=
  .fields [needed "type" .text, needed "scan_id" .text,
    usually "data" (.table .anything) (.record [])]

def repositoryRequest : Shape :=
  .fields [needed "repository_url" .text, usually "branch" .text (.text "main"),
    maybe "access_token" .text, maybe "webhook_url" .text]

def reportRequest : Shape :=
  .fields [needed "scan_id" .text, needed "format" .text,
    usually "include_remediation" .switch (.bool true), maybe "severity_filter" severity]

def named : List (String × Shape) :=
  [("StandardModel", standard), ("IssueModel", issue), ("RuleModel", rule),
   ("ConfigModel", settings), ("ScanRequest", scanRequest), ("ScanResponse", scanResponse),
   ("ScanStatusResponse", scanStatus), ("ScanSummary", scanSummary),
   ("FrameworkModel", framework), ("ScanResultsResponse", scanResults),
   ("WebSocketMessage", liveMessage), ("GitHubIntegrationRequest", repositoryRequest),
   ("ReportRequest", reportRequest)]

def withName (name : String) : Outcome Shape :=
  match named.find? fun s => s.1 == name with
  | some (_, shape) => .ok shape
  | none => .error (.unknownKey name)

-- ============================================================ messages

def ofStandard (s : Standard) : Outcome Value :=
  make standard [("id", .text s.id), ("name", .text s.name), ("type", .text s.kind.name),
    ("url", Value.ofText? s.link), ("section", Value.ofText? s.part)]

/-- A finding as a message. Findings without columns cannot become one. -/
def ofFinding (columns : Bool) (f : Finding) : Outcome Value := do
  let standards ← ((f.standards.getD []).filterMap Standard.withId?).mapM ofStandard
  if !columns then .error (.noMember "Issue" "column_number")
  make issue
    [("rule_id", f.rule), ("severity", .text f.severity.name), ("message", f.message),
     ("file_path", .text f.file.shown), ("line_number", f.line), ("column_number", f.column),
     ("code_snippet", f.snippet), ("remediation", f.remediation), ("category", f.category),
     ("confidence", f.confidence),
     ("metadata", if f.metadata.isTruthy then f.metadata else .record []),
     ("standards", .list standards), ("compliance_frameworks", Value.texts (f.frameworks.getD []))]

/-- A framework with all that is known of it, as a message. -/
def ofFramework (f : Value) : Outcome Value := do
  let files := (← (← f.pick "files").each).map fun path => .text path.shown
  make framework [("name", ← f.pick "name"), ("type", ← f.pick "type"),
    ("confidence", ← f.pick "confidence"), ("files", .list files)]

def ofRule (r : Rule) : Outcome Value :=
  make rule [("id", .text r.id), ("name", .text r.id), ("description", .text r.description),
    ("category", .text r.category), ("severity", .text r.severity.name), ("enabled", .bool true),
    ("languages", Value.texts r.languages), ("tags", .list [])]

def ofSettings (c : AuditSettings) : Outcome Value := do
  let level ← Severity.ofValue "SeverityModel" c.minSeverity
  let get (name : String) : String × Value :=
    (name, (Value.lookup name c.fields).getD .null)
  make settings (("min_severity", .text level.name) ::
    ["enabled_rules", "disabled_rules", "exclude_patterns", "include_patterns",
     "max_issues_per_file", "include_code_snippets", "show_remediation", "check_data_privacy",
     "check_model_security", "check_bias_detection"].map get)

end SourceAudit.Schema
