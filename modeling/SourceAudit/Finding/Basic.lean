/-
Findings: what an audit reports about a place in a file, and how severe it is.

A finding that comes from outside keeps the values it was given, whatever they
are; only its severity is one of the four levels.
-/
import SourceAudit.Fault
import SourceAudit.Value.Show

namespace SourceAudit

-- ============================================================ severity

/-- The four levels of severity. -/
inductive Severity where
  | low
  | medium
  | high
  | critical
  deriving DecidableEq, Repr

namespace Severity

/-- The levels from the lowest to the highest. -/
def all : List Severity := [.low, .medium, .high, .critical]

def name : Severity → String
  | .low => "low"
  | .medium => "medium"
  | .high => "high"
  | .critical => "critical"

def ofName? (s : String) : Option Severity :=
  all.find? fun level => level.name == s

/-- The level a value names; `kind` is the word for what was expected. -/
def ofValue (kind : String) (v : Value) : Outcome Severity :=
  match v.asText?.bind ofName? with
  | some level => .ok level
  | none => .error (.badChoice v.quoted kind)

end Severity

-- ============================================================= finding

/-- What an audit reports about a place in a file. -/
structure Finding where
  rule : Value
  severity : Severity
  category : Value
  message : Value
  file : Value
  line : Value
  column : Value
  snippet : Value
  remediation : Value
  confidence : Value
  metadata : Value
  /-- Ids of the standards it touches, once they have been looked up. -/
  standards : Option (List String)
  /-- Compliance frameworks it touches, once they have been looked up. -/
  frameworks : Option (List String)

namespace Finding

def fields (f : Finding) : List (String × Value) :=
  [("rule_id", f.rule), ("severity", .text f.severity.name), ("category", f.category),
   ("message", f.message), ("file_path", f.file), ("line_number", f.line),
   ("code_snippet", f.snippet), ("remediation", f.remediation), ("confidence", f.confidence),
   ("metadata", f.metadata)]

def toValue (f : Finding) : Value :=
  .record f.fields

/-- The entries a finding is made of. With `columns` it also takes a column. -/
def form (columns : Bool) : Form where
  title := "Issue.__init__"
  required := ["rule_id", "severity", "category", "message", "file_path"]
  optional :=
    ["line_number", "code_snippet", "remediation", "confidence", "metadata"] ++
      (if columns then ["column_number"] else [])

/-- A finding made of named entries. Entries left open have their usual values. -/
def ofFields (columns : Bool) (entries : List (String × Value)) : Outcome Finding := do
  let given (name : String) (usual : Value) : Value := (Value.lookup name entries).getD usual
  let severity ←
    match Value.lookup "severity" entries with
    | some v => Severity.ofValue "Severity" v
    | none => .ok .low
  (form columns).check entries
  return {
    rule := given "rule_id" .null
    severity
    category := given "category" .null
    message := given "message" .null
    file := given "file_path" .null
    line := given "line_number" (.int 0)
    column := given "column_number" .null
    snippet := given "code_snippet" (.text "")
    remediation := given "remediation" (.text "")
    confidence := given "confidence" (.real 0.8)
    metadata := given "metadata" (.record [])
    standards := none
    frameworks := none }

end Finding

-- ============================================================= results

def severityCounts (findings : List Finding) : List (String × Value) :=
  Severity.all.map fun level =>
    (level.name, Value.ofNat (findings.countP fun f => f.severity == level))

def ofSeverity (level : Severity) (findings : List Finding) : List Finding :=
  findings.filter fun f => f.severity == level

/-- Findings with their counts and further data, as a record. -/
def resultsRecord (findings : List Finding) (metadata : Value) : List (String × Value) :=
  [("issues", .list (findings.map Finding.toValue)),
   ("summary", .record
     [("total_issues", Value.ofNat findings.length),
      ("severity_counts", .record (severityCounts findings))]),
   ("metadata", metadata)]

end SourceAudit
