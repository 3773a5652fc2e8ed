/-
The report for a browser: one page with the totals, the findings file by file and
the files that could not be scanned.

A page is a row of parts, each of them markup of the page's own or a text that the
page is told. Texts are put into the page as they are.
-/
import SourceAudit.Report.Basic

namespace SourceAudit.Report

-- =============================================================== parts

/-- What a text that a page is told is for. -/
inductive Slot where
  | total
  | file
  | rule
  | line
  | message
  | snippet
  | remediation
  /-- The path of a file that could not be scanned. -/
  | failedFile
  /-- Why it could not be. -/
  | reason
  deriving DecidableEq, Repr

/-- A part of a page: markup of its own, or a text that it is told. -/
inductive Part where
  | markup (text : String)
  | told (slot : Slot) (text : String)

def Part.text : Part → String
  | .markup text => text
  | .told _ text => text

def text (parts : List Part) : String :=
  String.join (parts.map Part.text)

-- ============================================================== totals

def pageStart : String :=
  r#"
<!DOCTYPE html>
<html lang="en">
<head>
    <meta charset="UTF-8">
    <meta name="viewport" content="width=device-width, initial-scale=1.0">
    <title>VibeCodeAuditor Report</title>
    <style>
        body { font-family: -apple-system, BlinkMacSystemFont, 'Segoe UI', Roboto, sans-serif; margin: 0; padding: 20px; background: #f8fafc; }
        .container { max-width: 1200px; margin: 0 auto; }
        .header { background: white; padding: 30px; border-radius: 8px; box-shadow: 0 1px 3px rgba(0,0,0,0.1); margin-bottom: 20px; }
        .summary { display: grid; grid-template-columns: repeat(auto-fit, minmax(150px, 1fr)); gap: 20px; margin: 20px 0; }
        .summary-card { background: white; padding: 20px; border-radius: 8px; text-align: center; box-shadow: 0 1px 3px rgba(0,0,0,0.1); }
        .summary-card h3 { margin: 0 0 10px 0; font-size: 2em; }
        .summary-card p { margin: 0; color: #6b7280; }
        .critical { color: #dc2626; }
        .high { color: #ea580c; }
        .medium { color: #d97706; }
        .low { color: #16a34a; }
        .file-section { background: white; margin: 20px 0; border-radius: 8px; box-shadow: 0 1px 3px rgba(0,0,0,0.1); }
        .file-header { padding: 20px; border-bottom: 1px solid #e5e7eb; font-weight: bold; }
        .issue { padding: 20px; border-bottom: 1px solid #f3f4f6; }
        .issue:last-child { border-bottom: none; }
        .issue-header { display: flex; align-items: center; margin-bottom: 10px; }
        .severity-badge { padding: 4px 8px; border-radius: 4px; color: white; font-size: 0.8em; margin-right: 10px; }
        .code-snippet { background: #f8fafc; padding: 10px; border-radius: 4px; font-family: monospace; margin: 10px 0; }
        .remediation { background: #f0f9ff; padding: 10px; border-radius: 4px; border-left: 4px solid #0ea5e9; margin: 10px 0; }
    </style>
</head>
<body>
    <div class="container">
        <div class="header">
            <h1>VibeCodeAuditor Report</h1>
            <p>Comprehensive code audit results</p>
        </div>
        
        <div class="summary">
"#

/-- The totals shown at the top: the name of each, its mark and its title. -/
def cards : List (String × String × String) :=
  [("files_scanned", "", "Files Scanned"), ("total_issues", "", "Total Issues"),
   ("critical", " class=\"critical\"", "Critical"), ("high", " class=\"high\"", "High"),
   ("medium", " class=\"medium\"", "Medium"), ("low", " class=\"low\"", "Low")]

/-- A total; what is not counted is left open. -/
def card (totals : Value) (name mark title : String) : List Part :=
  [.markup (r#"            <div class="summary-card">
                <h3"# ++ mark ++ ">"), .told .total ((totals.get? name).elim "" Value.shown),
   .markup (r#"</h3>
                <p>"# ++ title ++ r#"</p>
            </div>
"#)]

-- ============================================================ findings

def pageColour : Severity → String
  | .critical => "#dc2626"
  | .high => "#ea580c"
  | .medium => "#d97706"
  | .low => "#16a34a"

/-- Parts of the page that are there only if a value is. -/
def partsIf (slot : Slot) (v : Value) (before after : String) : List Part :=
  if v.isTruthy then [.markup before, .told slot v.shown, .markup after] else []

def findingBlock (f : Finding) : List Part :=
  [.markup (r#"
            <div class="issue">
                <div class="issue-header">
                    <span class="severity-badge" style="background-color: "# ++ pageColour f.severity ++ r#"">
                        "# ++
    Text.upper f.severity.name ++ r#"
                    </span>
                    <strong>"#), .told .rule f.rule.shown, .markup r#"</strong>
                    "#] ++
  partsIf .line f.line r#"
                    <span style="color: #6b7280; margin-left: 10px;">Line "# r#"</span>
                    "# ++
  [.markup r#"
                </div>
                <p>"#, .told .message f.message.shown, .markup r#"</p>
                "#] ++
  partsIf .snippet f.snippet r#"
                <div class="code-snippet">"# r#"</div>
                "# ++
  [.markup r#"
                "#] ++
  partsIf .remediation f.remediation r#"
                <div class="remediation">
                    <strong>Remediation:</strong> "# r#"
                </div>
                "# ++
  [.markup r#"
            </div>
            "#]

/-- Findings ordered by the word for their level, last word first; findings of one
level keep their order. -/
def byLevel (found : List Finding) : List Finding :=
  found.mergeSort fun a b => b.severity.name ≤ a.severity.name

def fileSection (file : String) (found : List Finding) : List Part :=
  [.markup r#"
        <div class="file-section">
            <div class="file-header">"#, .told .file file, .markup r#"</div>
            "#] ++
  (byLevel found).flatMap findingBlock ++
  [.markup r#"
        </div>
        "#]

/-- The files that have findings, in the order in which they come up. -/
def files (found : List Finding) : List String :=
  (found.map fun f => f.file.shown).foldl
    (fun seen file => if seen.contains file then seen else seen ++ [file]) []

def fileSections (found : List Finding) : List Part :=
  (files found).flatMap fun file =>
    fileSection file (found.filter fun f => f.file.shown == file)

-- ============================================================== errors

def errorBlock (file : String) (why : Value) : List Part :=
  [.markup r#"
            <div class="issue">
                <strong>"#, .told .failedFile file, .markup r#"</strong>
                <p>"#, .told .reason why.shown, .markup r#"</p>
            </div>
            "#]

def errorSection (errs : List (String × Value)) : List Part :=
  if errs.isEmpty then []
  else
    [.markup r#"
        <div class="file-section">
            <div class="file-header" style="color: #dc2626;">Processing Errors</div>
            "#] ++
    (errs.flatMap fun (file, why) => errorBlock file why) ++
    [.markup r#"
        </div>
        "#]

-- ================================================================ page

def page (totals : Value) (found : List Finding) (errs : List (String × Value)) : List Part :=
  [.markup pageStart] ++
  (cards.flatMap fun (name, mark, title) => card totals name mark title) ++
  [.markup r#"        </div>
        
        "#] ++
  fileSections found ++
  [.markup r#"
        
        "#] ++
  errorSection errs ++
  [.markup r#"
    </div>
</body>
</html>
        "#]

def html (r : ReportData) : Outcome String := do
  return text (page (← r.theTotals) r.findings r.errors)

end SourceAudit.Report
