/-
The security scan: files are grouped by their kind, each group goes to every
scanner that takes it, and what the scanners report becomes findings.
-/
import SourceAudit.Finding.Basic
import SourceAudit.Scan.Custom

namespace SourceAudit

-- ============================================================ scanners

/-- The scanners of a security scan. -/
inductive Scanner where
  | bandit
  | semgrep
  | script
  | safety
  | custom
  deriving DecidableEq, Repr

namespace Scanner

def all : List Scanner := [.bandit, .semgrep, .script, .safety, .custom]

def name : Scanner → String
  | .bandit => "bandit"
  | .semgrep => "semgrep"
  | .script => "eslint_security"
  | .safety => "safety"
  | .custom => "custom_rules"

def ofName? (s : String) : Option Scanner :=
  all.find? fun scanner => scanner.name == s

def supports (s : Scanner) (paths : List String) : Bool :=
  match s with
  | .bandit => paths.any Bandit.takes
  | .semgrep => paths.any Semgrep.takes
  | .script => paths.any ScriptScan.takes
  | .safety => paths.any Safety.takes
  | .custom => true

def scan (s : Scanner) (box : Toolbox) (tree : FileTree) (paths : List String) :
    Outcome ToolReport :=
  match s with
  | .bandit => .ok (Bandit.scan box tree paths)
  | .semgrep => .ok (Semgrep.scan box tree paths)
  | .script => ScriptScan.scan tree paths
  | .safety => .ok (Safety.scan box paths)
  | .custom => .ok (CustomScan.scan tree paths)

/-- Runs a scanner on files; a failure becomes part of its report. -/
def scanSafely (s : Scanner) (box : Toolbox) (tree : FileTree) (paths : List String) :
    ToolReport :=
  match s.scan box tree paths with
  | .ok report => report
  | .error why => .trouble s.name why.message

end Scanner

namespace SecurityScan

-- ============================================================== groups

def groups : List (String × List String) :=
  [("python", [".py"]), ("javascript", [".js", ".jsx"]), ("typescript", [".ts", ".tsx"]),
   ("json", [".json"]), ("yaml", [".yml", ".yaml"])]

/-- The group of a file, whatever the case of its ending. -/
def groupOf (path : String) : String :=
  (groups.find? fun g => g.2.contains (Text.lower (Path.ending path))).elim "other" Prod.fst

def groupNames : List String := groups.map Prod.fst ++ ["other"]

/-- Files by their group, groups without files left out. -/
def grouped (paths : List String) : List (String × List String) :=
  (groupNames.map fun g => (g, paths.filter fun p => groupOf p == g)).filter fun g => !g.2.isEmpty

-- ============================================================ findings

/-- The level of severity for a tool's word, whatever its case. -/
def severityOf (word : String) : Severity :=
  let known : List (String × Severity) :=
    [("HIGH", .critical), ("MEDIUM", .high), ("LOW", .medium), ("INFO", .low),
     ("ERROR", .critical), ("WARNING", .high), ("CRITICAL", .critical)]
  (known.find? fun e => e.1 == Text.upper word).elim .medium Prod.snd

/-- An issue of a tool as a finding; none if its severity is not a word. -/
def findingOf? (issue : Value) (tool : String) : Option Finding :=
  match issue with
  | .record fields =>
    let get (name : String) (fallback : Value) : Value :=
      (Value.lookup name fields).getD fallback
    (get "severity" (.text "MEDIUM")).asText?.map fun word =>
      { rule := get "rule_id" (.text (tool ++ "_unknown"))
        severity := severityOf word
        category := .text "security"
        message := get "message" (.text "Security issue detected")
        file := .text (get "file_path" (.text "")).shown
        line := get "line_number" (.int 0)
        column := .null
        snippet := get "code_snippet" (.text "")
        remediation := get "remediation" (.text "Review and fix this issue")
        confidence := get "confidence" (.real 0.8)
        metadata := .record [("tool", .text tool), ("original_data", issue)]
        standards := none
        frameworks := none }
  | _ => none

def findingsOf (report : ToolReport) : List Finding :=
  report.issues.filterMap fun issue => findingOf? issue report.tool

/-- What the scanners that take the files of a group report on them. -/
def groupReports (box : Toolbox) (tree : FileTree) (files : List String) : List ToolReport :=
  (Scanner.all.filter fun s => s.supports files).map fun s => s.scanSafely box tree files

/-- The reports on files, group by group. A program is run once for a group at most,
and may do something else for each. -/
def reports (boxes : String → Toolbox) (tree : FileTree) (paths : List String) :
    List ToolReport :=
  (grouped paths).flatMap fun (group, files) => groupReports (boxes group) tree files

/-- The findings in files, what programs do being known for each group. -/
def scanWith (boxes : String → Toolbox) (tree : FileTree) (paths : List String) : List Finding :=
  (reports boxes tree (paths.map Path.normal)).flatMap findingsOf

def scan (box : Toolbox) (tree : FileTree) (paths : List String) : List Finding :=
  scanWith (fun _ => box) tree paths

end SecurityScan

end SourceAudit
