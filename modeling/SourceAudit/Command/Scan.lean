/-
The command that audits a project and reports on it. Its code tells whether there
are critical findings (1), findings of high severity (2) or neither (0).
-/
import SourceAudit.Report.Html
import SourceAudit.Report.Json
import SourceAudit.Shell.Auditing

namespace SourceAudit.Command

open Script

/-- What is asked of a scan. -/
structure ScanRequest where
  target : String
  settings : Option String
  format : String
  output : Option String
  severity : String
  rules : List String
  exclude : List String
  verbose : Bool

/-- Settings with more patterns for files that are left out. -/
def withExcluded (c : AuditSettings) (patterns : List String) : Outcome AuditSettings :=
  match (Value.lookup "exclude_patterns" c.fields).getD .null with
  | .list old => .ok (c.set "exclude_patterns" (.list (old ++ patterns.map .text)))
  | v => .error (.noMember v.kind "extend")

/-- The settings of a scan: those of a file or the usual ones, and what the command
line says instead. -/
def ScanRequest.settingsIn (r : ScanRequest) (tree : FileTree) : Outcome AuditSettings := do
  let c ← match r.settings with
    | some path => AuditSettings.ofFile tree path
    | none => pure AuditSettings.usual
  let c := c.set "min_severity" (.text r.severity)
  let c := if r.rules.isEmpty then c else c.set "enabled_rules" (Value.texts r.rules)
  if r.exclude.isEmpty then return c else withExcluded c r.exclude

def reportData (a : Audit) (totals : Option Value) : ReportData where
  findings := a.findings
  errors := a.errors.map fun (file, why) => (file, .text why)
  totals := totals
  frameworks := a.frameworks.map fun (_, d) =>
    ⟨d.name, d.area.name, .real d.confidence, Value.texts d.files⟩
  compliance := a.summary.toValue.fields

/-- Puts a report into a file, or prints it. -/
def deliver (output : Option String) (report : String) : Script Unit :=
  match output.filter fun path => !path.isEmpty with
  | some path => writeText path report
  | none => say report

/-- Reports on an audit. On the console as much is shown as can be. -/
def report (r : ScanRequest) (data : ReportData) : Script Unit :=
  match r.format with
  | "json" => deliver r.output (Report.json data)
  | "html" => do deliver r.output (← ofOutcome (Report.html data))
  | _ => do
    let (displays, fault) := Report.console (← MonadReader.read).refusal? r.verbose data
    displays.forM display
    if let some f := fault then throw f

def audit (r : ScanRequest) : Script Unit := do
  let settings ← ofOutcome (r.settingsIn (← get).tree)
  let auditor ← ofOutcome (Auditor.ofSettings settings)
  displayLine ("[bold blue]Scanning " ++ r.target ++ "...[/bold blue]")
  let found ← performAudit auditor (Path.normal r.target)
  report r (reportData found (← MonadReader.read).totals)
  let critical ← ofOutcome (ReportData.told "has_critical_issues" (← MonadReader.read).critical)
  if critical.isTruthy then exit 1
  let high ← ofOutcome (ReportData.told "has_high_issues" (← MonadReader.read).high)
  exit (if high.isTruthy then 2 else 0)

def scan (r : ScanRequest) : Script Unit :=
  rescue (audit r) fun f => do
    displayLine ("[bold red]Error: " ++ f.message ++ "[/bold red]")
    exit 1

end SourceAudit.Command
