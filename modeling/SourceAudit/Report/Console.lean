/-
The report for a terminal, as the sequence of what is shown: lines with marks for
colour, tables and panels. How they are laid out is left to the terminal, and what it
refuses to show ends the report.
-/
import SourceAudit.Report.Basic
import SourceAudit.Standard.Catalogue

namespace SourceAudit.Report

-- ============================================================= display

/-- A column of a table. -/
structure Column where
  header : String
  justify : String
  style : String

/-- Something shown on a terminal. -/
inductive Display where
  | blank
  | line (text : String)
  | table (title : String) (columns : List Column) (rows : List (List String × Option String))
  | panel (text title border : String)

namespace Display

def toValue : Display → Value
  | .blank => .list []
  | .line text => Value.texts [text]
  | .table title columns rows =>
    .list [.record
      [("table", .text title),
       ("columns", .list (columns.map fun c => Value.texts [c.header, c.justify, c.style])),
       ("rows", .list (rows.map fun r => Value.texts r.1)),
       ("row_styles", .list (rows.map fun r => Value.ofText? r.2))]]
  | .panel text title border =>
    .list [.record [("panel", .text text), ("title", .text title), ("border", .text border)]]

end Display

def words (header style : String) : Column := ⟨header, "left", style⟩

def numbers (header style : String) : Column := ⟨header, "right", style⟩

-- ========================================================== frameworks

/-- A share in percent, with one place after the point. -/
def percent (v : Value) : Outcome String :=
  match v with
  | .real x => .ok (Number.fixed 1 (x * 100) ++ "%")
  | .text _ => .error (.badFormat "%" "str")
  | v =>
    match v.asWhole? with
    | some n => .ok (Number.fixed 1 (Float.ofInt n * 100) ++ "%")
    | none => .error (.helperMisuse
        ("unsupported format string passed to " ++ v.kind ++ ".__format__"))

def fileCount (files : Value) : Outcome String :=
  if !files.isTruthy then .ok "N/A"
  else match files with
    | .list items => .ok (toString items.length ++ " files")
    | .text s => .ok (toString s.length ++ " files")
    | .record fields => .ok (toString fields.length ++ " files")
    | v => .error (.noLength v.kind)

/-- The table of frameworks; nothing if there are none. -/
def frameworks (found : List FrameworkLine) : Outcome (List Display) := do
  if found.isEmpty then return []
  let rows ← found.mapM fun f => do
    return ([f.name, f.area, ← percent f.confidence, ← fileCount f.files], none)
  return [.table "Detected Frameworks"
    [words "Framework" "cyan", words "Type" "magenta", numbers "Confidence" "green",
     words "Files" "yellow"] rows, .blank]

-- ============================================================== totals

def totals (t : Value) : Outcome (List Display) := do
  let row (title name : String) (style : Option String) : Outcome (List String × Option String) := do
    return ([title, (← t.pick name).shown], style)
  let rows := [← row "Files Scanned" "files_scanned" none,
    ← row "Total Issues" "total_issues" none,
    ← row "Critical" "critical" (some "red"), ← row "High" "high" (some "orange1"),
    ← row "Medium" "medium" (some "yellow"), ← row "Low" "low" (some "green")]
  let broken ←
    if ← isAbove 0 (← t.pick "files_with_errors") then do
      pure [← row "Files with Errors" "files_with_errors" (some "red")]
    else pure []
  return [.table "Audit Summary" [words "Metric" "cyan", numbers "Count" "green"]
    (rows ++ broken), .blank]

-- ============================================================ findings

def colour : Severity → String
  | .critical => "red"
  | .high => "orange1"
  | .medium => "yellow"
  | .low => "green"

/-- The first of several names, and how many more there are. -/
def someOf (n : Nat) (names : List String) : String :=
  ", ".intercalate (names.take n) ++
    (if n < names.length then " (+" ++ toString (names.length - n) ++ " more)" else "")

def location (f : Finding) : String :=
  f.file.shown ++ (if f.line.isTruthy then ":" ++ f.line.shown else "") ++
    (if f.column.isTruthy then ":" ++ f.column.shown else "")

def standardNames (ids : List String) : List String :=
  ids.filterMap fun id => (Standard.withId? id).map Standard.name

/-- One finding. Code, remedy and standards are told on request. -/
def finding (verbose : Bool) (f : Finding) : List Display :=
  let c := colour f.severity
  let detail (holds : Bool) (title text : String) : List Display :=
    if holds && verbose then [.line ("  [dim]" ++ title ++ ":[/dim] " ++ text)] else []
  let standards := standardNames (f.standards.getD [])
  let compliance := f.frameworks.getD []
  [.line ("[" ++ c ++ "]●[/" ++ c ++ "] " ++ f.rule.shown ++ " - " ++ location f),
   .line ("  " ++ f.message.shown)] ++
  detail f.snippet.isTruthy "Code" f.snippet.shown ++
  detail f.remediation.isTruthy "Fix" f.remediation.shown ++
  detail (!standards.isEmpty) "Standards" (someOf 3 standards) ++
  detail (!compliance.isEmpty) "Compliance" (someOf 2 compliance) ++
  [.blank]

def findingsOf (verbose : Bool) (found : List Finding) (level : Severity) : List Display :=
  let own := ofSeverity level found
  let c := colour level
  if own.isEmpty then []
  else .line ("\n[bold " ++ c ++ "]" ++ Text.upper level.name ++ " SEVERITY ISSUES (" ++
      toString own.length ++ ")[/bold " ++ c ++ "]") :: own.flatMap (finding verbose)

/-- All findings, the most severe first. -/
def findings (verbose : Bool) (found : List Finding) : List Display :=
  [Severity.critical, .high, .medium, .low].flatMap (findingsOf verbose found)

-- ============================================== errors and compliance

def errors (errs : List (String × Value)) : List Display :=
  if errs.isEmpty then []
  else .line "\n[bold red]PROCESSING ERRORS[/bold red]" ::
    errs.map (fun (file, why) => .line ("[red]●[/red] " ++ file ++ ": " ++ why.shown)) ++ [.blank]

def shortName (v : Value) : Outcome String :=
  match v with
  | .text s => .ok (if 50 < s.length then Text.take 50 s ++ "..." else s)
  | .list _ | .record _ => .error (.notShowable v.kind)
  | v => .error (.noLength v.kind)

def compliance (summary : List (String × Value)) : Outcome (List Display) := do
  if summary.isEmpty then return []
  let rows ← summary.mapM fun (_, data) => do
    let name ← shortName (← data.pick "name")
    let counts ← ["count", "critical", "high", "medium", "low"].mapM fun n => do
      return (← data.pick n).shown
    return (name :: counts, none)
  return [.table "Compliance Framework Impact"
    [words "Framework" "cyan", numbers "Issues" "yellow", numbers "Critical" "red",
     numbers "High" "orange1", numbers "Medium" "yellow", numbers "Low" "green"] rows, .blank]

-- ===================================================== recommendations

/-- What should be done, judged by the totals. -/
def recommendations (t : Value) : Outcome (List Display) := do
  let advice (name : String) (bound : Nat) (text : String) : Outcome (List String) := do
    return if ← isAbove bound (← t.pick name) then [text] else []
  let texts :=
    (← advice "critical" 0 "🚨 Address critical security issues immediately") ++
    (← advice "high" 0 "⚠️  Review and fix high-severity issues") ++
    (← advice "total_issues" 50 "📊 Consider implementing automated code quality checks") ++
    (← advice "files_with_errors" 0 "🔧 Fix file processing errors to get complete analysis")
  return if texts.isEmpty then []
    else [.panel ("\n".intercalate texts) "[bold blue]Recommendations[/bold blue]" "blue"]

-- ============================================================== report

def sections (verbose : Bool) (r : ReportData) : List (Outcome (List Display)) :=
  [frameworks r.frameworks, do totals (← r.theTotals), .ok (findings verbose r.findings),
   .ok (errors r.errors), compliance r.compliance, do recommendations (← r.theTotals)]

/-- Shows things one after another, up to the first that is refused. -/
def showUpTo (refusal? : Display → Option Fault) :
    List Display → List Display × Option Fault
  | [] => ([], none)
  | d :: rest =>
    match refusal? d with
    | some fault => ([], some fault)
    | none => ((showUpTo refusal? rest).map (d :: ·) id)

/-- Shows sections one after another, up to the first that fails or is refused. -/
def showSections (refusal? : Display → Option Fault) :
    List (Outcome (List Display)) → List Display × Option Fault
  | [] => ([], none)
  | .ok shown :: rest =>
    match showUpTo refusal? shown with
    | (shown, none) => (showSections refusal? rest).map (shown ++ ·) id
    | (shown, some fault) => (shown, some fault)
  | .error fault :: _ => ([], some fault)

/-- The report for a terminal that refuses to show some things: what is shown, and the fault
that ended it. -/
def console (refusal? : Display → Option Fault) (verbose : Bool) (r : ReportData) :
    List Display × Option Fault :=
  showSections refusal? (sections verbose r)

end SourceAudit.Report
