/-
The records of scans, issues, files, users and events in the store.

Every operation does without the store if it is not available, and gives its
stand-in answer if the store fails.
-/
import SourceAudit.Finding.Basic
import SourceAudit.Moment
import SourceAudit.Standard.Catalogue
import SourceAudit.Store.Client
import SourceAudit.Value.Access

namespace SourceAudit.Store

/-- A value, or another if it counts as absent. -/
def orValue (v other : Value) : Value :=
  if v.isTruthy then v else other

/-- The item of a list at its start. -/
def first (v : Value) : Outcome Value :=
  match v with
  | .list (x :: _) => .ok x
  | .list [] => .error (.outOfRange "list")
  | .text s =>
    match s.toList with
    | c :: _ => .ok (.text c.toString)
    | [] => .error (.outOfRange "string")
  | .record _ => .error (.unknownNumber 0)
  | v => .error (.notSubscriptable v.kind)

def size (v : Value) : Outcome Nat :=
  match v with
  | .list items => .ok items.length
  | .text s => .ok s.length
  | .record fields => .ok fields.length
  | v => .error (.noLength v.kind)

/-- Whether the store gave an answer at all. -/
def isAnswered : Value → Value
  | .null => .bool false
  | _ => .bool true

namespace Service

-- =============================================================== scans

def createScan (now : Moment) (user name config : Value) : Action Value :=
  Action.orElse (do
    let data ← Action.rows ((Query.table "scans").insert (.record
      [("user_id", user), ("name", orValue name (.text ("Scan " ++ now.minuteText))),
       ("status", .text "pending"), ("config", orValue config (.record [])),
       ("started_at", .text now.iso)]))
    if data.isTruthy then Action.ofOutcome do (← first data).pick "id"
    else return .null) .null

def totalColumns (summary : Value) : Outcome (List (String × Value)) := do
  let get (name : String) : Outcome Value := summary.ask name (.int 0)
  return [("summary", summary), ("total_issues", ← get "total_issues"),
    ("critical_issues", ← get "critical"), ("high_issues", ← get "high"),
    ("medium_issues", ← get "medium"), ("low_issues", ← get "low")]

/-- Changes the status of a scan and enters its results. -/
def updateScan (now : Moment) (scan status summary compliance frameworks : Value) : Action Value :=
  Action.orElse (do
    let done := if status.same (.text "completed") then [("completed_at", .text now.iso)] else []
    let totals ← if summary.isTruthy then Action.ofOutcome (totalColumns summary) else pure []
    let rest (name : String) (v : Value) := if v.isTruthy then [(name, v)] else []
    let data ← Action.rows (((Query.table "scans").update (.record
      ([("status", status), ("updated_at", .text now.iso)] ++ done ++ totals ++
        rest "compliance_summary" compliance ++ rest "detected_frameworks" frameworks))).eq "id" scan)
    return isAnswered data) (.bool false)

def scanResults (scan user : Value) : Action Value :=
  Action.orElse (do
    let data ← Action.rows
      ((((Query.table "scans").select "*").eq "id" scan).eq "user_id" user)
    if !data.isTruthy then return .null
    let entry ← Action.ofOutcome (first data)
    let issues ← Action.rows (((Query.table "issues").select "*").eq "scan_id" scan)
    return .record [("scan", entry), ("issues", orValue issues (.list []))]) .null

def userScans (user most : Value) : Action Value :=
  Action.orElse (do
    let data ← Action.rows
      (((((Query.table "scans").select "*").eq "user_id" user).latest "created_at").limit most)
    return orValue data (.list [])) (.list [])

-- ============================================================== issues

def standardRecord (s : Standard) : Value :=
  .record [("id", .text s.id), ("name", .text s.name), ("type", .text s.kind.name),
    ("url", Value.ofText? s.link), ("section", Value.ofText? s.part),
    ("description", .text s.description)]

/-- A description of a standard that came from elsewhere, as it is stored. -/
def foreignStandard (v : Value) : Value :=
  match v with
  | .record _ => v
  | v => .record [("name", .text v.shown)]

/-- The row of a finding that touches standards and compliance frameworks. -/
def issueRecord (scan : Value) (f : Finding) (standards frameworks : List String) : Value :=
  .record
    [("scan_id", scan), ("rule_id", f.rule), ("severity", .text f.severity.name),
     ("category", f.category), ("message", f.message), ("file_path", .text f.file.shown),
     ("line_number", f.line), ("column_number", f.column), ("code_snippet", f.snippet),
     ("remediation", f.remediation), ("confidence", f.confidence),
     ("metadata", orValue f.metadata (.record [])),
     ("standards", .list ((standards.filterMap Standard.withId?).map standardRecord)),
     ("compliance_frameworks", Value.texts frameworks)]

/-- The row of a finding. A finding without columns, standards or compliance
frameworks cannot be stored. -/
def issueRow (columns : Bool) (scan : Value) (f : Finding) : Outcome Value := do
  if !columns then .error (.noMember "Issue" "column_number")
  let some standards := f.standards | .error (.noMember "Issue" "standards")
  let some frameworks := f.frameworks | .error (.noMember "Issue" "compliance_frameworks")
  return issueRecord scan f standards frameworks

def saveIssues (columns : Bool) (scan : Value) (findings : List Finding) : Action Value :=
  Action.orElse (do
    let rows ← Action.ofOutcome (findings.mapM (issueRow columns scan))
    if rows.isEmpty then return .int 0
    let data ← Action.rows ((Query.table "issues").insert (.list rows))
    if data.isTruthy then Action.ofOutcome (Value.ofNat <$> size data)
    else return .int 0) (.int 0)

-- =============================================================== files

def uploadFile (scan : Value) (name : String) (bytes : Nat) : Action Value :=
  Action.orElse (do
    let path := "scans/" ++ scan.shown ++ "/" ++ name
    if (← Action.upload "vibeauditor-files" path bytes).isTruthy then return .null
    let _ ← Action.rows ((Query.table "scan_files").insert (.record
      [("scan_id", scan), ("file_name", .text name), ("file_path", .text name),
       ("storage_path", .text path), ("file_size", Value.ofNat bytes)]))
    return .text path) .null

-- ==================================================== users and events

/-- Enters the profile of a user; it is keyed by the id of the user. -/
def saveProfile (user email name organization role : Value) : Action Value :=
  Action.orElse (do
    let data ← Action.rows ((Query.table "profiles").upsert (.record
      [("id", user), ("email", email), ("full_name", orValue name email),
       ("organization", organization), ("role_id", orValue role (.text "user"))]))
    return isAnswered data) (.bool false)

/-- The profile of a user; it is looked up by a column of its own. -/
def profile (user : Value) : Action Value :=
  Action.orElse (Action.rows ((((Query.table "profiles").select "*").eq "user_id" user).single)) .null

def logEvent (user action kind id details : Value) : Action Value :=
  Action.orElse (do
    let data ← Action.rows ((Query.table "audit_logs").insert (.record
      [("user_id", user), ("action", action), ("resource_type", kind), ("resource_id", id),
       ("details", orValue details (.record []))]))
    return isAnswered data) (.bool false)

-- ============================================================ requests

/-- The operations that are asked for by name: required and optional entries, and
the answer without a store. -/
def forms : List (String × Form × Value) :=
  let form (name : String) (required optional : List String) (without : Value) :=
    (name, Form.mk ("DatabaseService." ++ name) required optional, without)
  [form "create_scan" ["user_id", "name"] ["config"] .null,
   form "update_scan_status" ["scan_id", "status"]
     ["summary", "compliance_summary", "detected_frameworks"] (.bool false),
   form "get_scan_results" ["scan_id", "user_id"] [] .null,
   form "get_user_scans" ["user_id"] ["limit"] (.list []),
   form "create_user_profile" ["user_id", "email"] ["full_name", "organization", "role_id"]
     (.bool false),
   form "get_user_profile" ["user_id"] [] .null,
   form "log_audit_event" ["user_id", "action", "resource_type"] ["resource_id", "details"]
     (.bool false)]

def run (now : Moment) (name : String) (entries : List (String × Value)) : Action Value :=
  let get (entry : String) : Value := (Value.lookup entry entries).getD .null
  match name with
  | "create_scan" => createScan now (get "user_id") (get "name") (get "config")
  | "update_scan_status" =>
    updateScan now (get "scan_id") (get "status") (get "summary") (get "compliance_summary")
      (get "detected_frameworks")
  | "get_scan_results" => scanResults (get "scan_id") (get "user_id")
  | "get_user_scans" =>
    userScans (get "user_id") ((Value.lookup "limit" entries).getD (.int 50))
  | "create_user_profile" =>
    saveProfile (get "user_id") (get "email") (get "full_name") (get "organization")
      (get "role_id")
  | "get_user_profile" => profile (get "user_id")
  | _ => logEvent (get "user_id") (get "action") (get "resource_type") (get "resource_id")
      (get "details")

/-- Runs an operation that is asked for by name, if it is one. -/
def request (available : Bool) (now : Moment) (name : String) (entries : List (String × Value)) :
    Action Value :=
  match forms.find? fun f => f.1 == name with
  | none => throw (.noMember "DatabaseService" name)
  | some (_, form, without) => do
    Action.ofOutcome (form.check entries)
    if available then run now name entries else return without

end Service

end SourceAudit.Store
