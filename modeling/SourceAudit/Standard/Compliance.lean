/-
Compliance: the standards attached to findings, and how many findings of each
severity touch each compliance framework.
-/
import SourceAudit.Finding.Basic
import SourceAudit.Standard.Mapping
import SourceAudit.Text.Search

namespace SourceAudit

namespace Standard

def label? (s : Standard) : Option String :=
  let named (word : String) : Bool := Text.contains word s.name
  match s.kind with
  | .compliance =>
    if named "GDPR" then some "GDPR"
    else if named "PCI DSS" then some "PCI DSS"
    else if named "HIPAA" then some "HIPAA"
    else if named "SOX" then some "SOX"
    else none
  | .security =>
    if named "OWASP" then some "OWASP"
    else if named "ISO" then some "ISO 27001"
    else if named "NIST" then some "NIST"
    else none
  | _ => none

/-- The labels of standards in ascending order, each once. -/
def labels (standards : List Standard) : List String :=
  inOrder (standards.filterMap label?)

end Standard

/-- How many findings touch a compliance framework, by severity. -/
structure Tally where
  id : String
  name : String
  count : Nat := 0
  critical : Nat := 0
  high : Nat := 0
  medium : Nat := 0
  low : Nat := 0

namespace Tally

def add (t : Tally) : Severity → Tally
  | .critical => { t with count := t.count + 1, critical := t.critical + 1 }
  | .high => { t with count := t.count + 1, high := t.high + 1 }
  | .medium => { t with count := t.count + 1, medium := t.medium + 1 }
  | .low => { t with count := t.count + 1, low := t.low + 1 }

def toField (t : Tally) : String × Value :=
  (t.id, .record
    [("name", .text t.name), ("count", Value.ofNat t.count), ("critical", Value.ofNat t.critical),
     ("high", Value.ofNat t.high), ("medium", Value.ofNat t.medium), ("low", Value.ofNat t.low)])

end Tally

/-- How many findings touch each compliance framework, in the order in which the
frameworks came up. -/
abbrev ComplianceSummary := List Tally

namespace ComplianceSummary

def count (summary : ComplianceSummary) (severity : Severity) (s : Standard) :
    ComplianceSummary :=
  if s.kind != .compliance then summary
  else if summary.any fun t => t.id == s.id then
    summary.map fun t => if t.id == s.id then t.add severity else t
  else summary ++ [({ id := s.id, name := s.name } : Tally).add severity]

/-- A field of the further data of a finding. -/
def dataField (name : String) (metadata : Value) : Outcome Value :=
  match metadata with
  | .record fields => .ok (Value.ofOption (Value.lookup name fields))
  | _ => .error (.noMember metadata.kind "get")

def countFinding (summary : ComplianceSummary) (f : Finding) : Outcome ComplianceSummary := do
  let weakness ← dataField "cwe" f.metadata
  let framework ← dataField "framework" f.metadata
  let standards ← Standard.forFinding f.rule weakness f.category framework
  return standards.foldl (fun summary s => summary.count f.severity s) summary

def ofFindings (findings : List Finding) : Outcome ComplianceSummary :=
  findings.foldlM countFinding []

def toValue (summary : ComplianceSummary) : Value :=
  .record (summary.map Tally.toField)

end ComplianceSummary

namespace Finding

/-- A finding with the standards it touches and their labels. Further data that
is empty counts as none. -/
def withStandards (f : Finding) : Outcome Finding := do
  let field (name : String) : Outcome Value :=
    if f.metadata.isTruthy then ComplianceSummary.dataField name f.metadata else .ok .null
  let framework ← field "framework"
  let weakness ← field "cwe"
  let standards ← Standard.forFinding f.rule weakness f.category framework
  return { f with
    standards := some (standards.map Standard.id)
    frameworks := some (Standard.labels standards) }

end Finding

def withCompliance (findings : List Finding) : Outcome (List Finding × ComplianceSummary) := do
  let mapped ← findings.mapM Finding.withStandards
  return (mapped, ← ComplianceSummary.ofFindings mapped)

/-- The finding a record describes, with the standards and frameworks it names. -/
def Finding.ofRecord (columns : Bool) (v : Value) : Outcome Finding := do
  let f ← Finding.ofFields columns
    (v.fields.filter fun e => !(["standards", "compliance_frameworks"].contains e.1))
  let named (field : String) : Option (List String) :=
    (v.get? field).map fun x => x.items.filterMap Value.asText?
  let _ ← Standard.withIds ((named "standards").getD [])
  return { f with standards := named "standards", frameworks := named "compliance_frameworks" }

end SourceAudit
