/-
Outside programs that look for weaknesses, and what their reports say.

What running a program does is known from a toolbox; a program that is not in it
is not installed. A report that cannot be read is an error of the tool, not of
the scan.
-/
import SourceAudit.FileTree
import SourceAudit.Text.Case
import SourceAudit.Value.Access
import SourceAudit.Value.Show

namespace SourceAudit

-- ============================================================= toolbox

/-- What running a program does. -/
inductive ToolRun where
  | ended (code : Int) (out err : String)
  | failed (reason : String)

/-- The programs that are installed, with what running them does. -/
abbrev Toolbox := List (String × ToolRun)

/-- Runs a program: its code, what it wrote and its complaints. -/
def Toolbox.run (box : Toolbox) (program : String) : Outcome (Int × String × String) :=
  match box.find? fun t => t.1 == program with
  | some (_, .ended code out err) => .ok (code, out, err)
  | some (_, .failed reason) => .error (.system reason)
  | none => .error (.noFile program)

-- ============================================================= reports

/-- What a tool reports about files. -/
structure ToolReport where
  tool : String
  issues : List Value
  errors : List String
  metadata : Value

namespace ToolReport

def nothing (tool : String) : ToolReport := ⟨tool, [], [], .record []⟩

def found (tool : String) (issues : List Value) : ToolReport := ⟨tool, issues, [], .record []⟩

def trouble (tool : String) (error : String) : ToolReport := ⟨tool, [], [error], .record []⟩

/-- A report, or the trouble that came in its place: a missing file counts as the
program not being installed. -/
def ofOutcome (tool title : String) : Outcome ToolReport → ToolReport
  | .ok report => report
  | .error (.noFile _) => trouble tool (title ++ " not installed")
  | .error why => trouble tool why.message

def toValue (r : ToolReport) : Value :=
  .record [("tool", .text r.tool), ("issues", .list r.issues), ("errors", Value.texts r.errors),
    ("metadata", r.metadata)]

end ToolReport

/-- An issue in the form all tools share. -/
def toolIssue (rule message severity file line snippet remediation confidence : Value) : Value :=
  .record
    [("rule_id", rule), ("message", message), ("severity", severity), ("file_path", file),
     ("line_number", line), ("code_snippet", snippet), ("remediation", remediation),
     ("confidence", confidence)]

/-- Copies the texts of files into a folder, each under its name alone. The first that
cannot be read decides; a copy takes the place of an earlier one of the same name. -/
def copyAll (tree folder : FileTree) : List String → Outcome FileTree
  | [] => .ok folder
  | path :: rest => do
    let text ← tree.readText path
    copyAll tree (← folder.write (Path.name path) (Text.encode text)) rest

-- ============================================================== bandit

namespace Bandit

/-- The number for a word of confidence, whatever its case. -/
def certainty (word : String) : Float :=
  let known := [("HIGH", 0.9), ("MEDIUM", 0.7), ("LOW", 0.5)]
  (known.find? fun e => e.1 == Text.upper word).elim 0.7 Prod.snd

/-- The number for a confidence, which has to be a word. -/
def confidence : Value → Outcome Value
  | .text s => .ok (.real (certainty s))
  | v => .error (.noMember v.kind "upper")

def issue (result : Value) : Outcome Value := do
  let get (name fallback : String) : Outcome Value := result.ask name (.text fallback)
  let id := (← get "test_id" "unknown").shown
  let words := (← get "issue_text" "").shown
  return toolIssue (.text ("bandit_" ++ id))
    (← get "issue_text" "Security issue")
    (← get "issue_severity" "MEDIUM")
    (← get "filename" "")
    (← result.ask "line_number" (.int 0))
    (← get "code" "")
    (.text ("Bandit " ++ (← get "test_name" "").shown ++ ": " ++ words))
    (← confidence (← get "issue_confidence" "MEDIUM"))

def issues (report : Value) : Outcome (List Value) := do
  (← (← report.ask "results" (.list [])).each).mapM issue

def takes (path : String) : Bool :=
  Path.ending path == ".py"

def reported : Int × String × String → Outcome ToolReport
  | (code, out, err) => do
    if code == 0 || code == 1 then
      let report ← Value.ofJson out
      let found ← issues report
      return { ToolReport.found "bandit" found with
        metadata := ← report.ask "metrics" (.record []) }
    else return .trouble "bandit" err

/-- Runs the tool on a folder with copies of the files it takes, if it takes any. -/
def scanBy (run : FileTree → Outcome (Int × String × String)) (tree : FileTree)
    (paths : List String) : ToolReport :=
  let own := paths.filter takes
  if own.isEmpty then .nothing "bandit"
  else .ofOutcome "bandit" "Bandit" do reported (← run (← copyAll tree .empty own))

def scan (box : Toolbox) (tree : FileTree) (paths : List String) : ToolReport :=
  scanBy (fun _ => box.run "bandit") tree paths

end Bandit

-- ============================================================= semgrep

namespace Semgrep

def issue (result : Value) : Outcome Value := do
  let extra (name fallback : String) : Outcome Value := do
    (← result.ask "extra" (.record [])).ask name (.text fallback)
  let id := (← result.ask "check_id" (.text "unknown")).shown
  return toolIssue (.text ("semgrep_" ++ id))
    (← result.ask "message" (.text "Security issue"))
    (← extra "severity" "MEDIUM")
    (← result.ask "path" (.text ""))
    (← (← result.ask "start" (.record [])).ask "line" (.int 0))
    (← extra "lines" "")
    (← extra "message" "Review this security issue")
    (.real 0.8)

def issues (report : Value) : Outcome (List Value) := do
  (← (← report.ask "results" (.list [])).each).mapM issue

def takes (path : String) : Bool :=
  [".py", ".js", ".jsx", ".ts", ".tsx", ".java", ".go", ".rb", ".php"].contains (Path.ending path)

def reported : Int × String × String → Outcome ToolReport
  | (code, out, err) => do
    if code == 0 || code == 1 then
      return .found "semgrep" (← issues (← Value.ofJson out))
    else return .trouble "semgrep" err

/-- Runs the tool on a folder with copies of the files it takes. -/
def scanBy (run : FileTree → Outcome (Int × String × String)) (tree : FileTree)
    (paths : List String) : ToolReport :=
  .ofOutcome "semgrep" "Semgrep" do reported (← run (← copyAll tree .empty (paths.filter takes)))

def scan (box : Toolbox) (tree : FileTree) (paths : List String) : ToolReport :=
  scanBy (fun _ => box.run "semgrep") tree paths

end Semgrep

-- ============================================================== safety

namespace Safety

def issue (weakness : Value) : Outcome Value := do
  let get (name fallback : String) : Outcome String := do
    return (← weakness.ask name (.text fallback)).shown
  let id ← get "id" "unknown"
  let package ← get "package_name" "unknown"
  let name ← get "package_name" ""
  let version ← get "installed_version" ""
  let safe ← get "safe_version" "latest"
  return toolIssue (.text ("safety_" ++ id)) (.text ("Vulnerable dependency: " ++ package))
    (.text "HIGH") (.text "requirements.txt") (.int 1) (.text (name ++ "==" ++ version))
    (.text ("Update to version " ++ safe ++ " or higher")) (.real 0.9)

def issues (report : Value) : Outcome (List Value) := do
  (← report.each).mapM issue

def takes (path : String) : Bool :=
  ["requirements.txt", "Pipfile", "pyproject.toml"].contains (Path.name path)

def command (path : String) : List String :=
  ["safety", "check", "-r", path, "--json"]

/-- What comes of a run that has ended. A report that is not JSON holds nothing. -/
def reported : Int × String × String → Outcome ToolReport
  | (code, out, err) => do
    if code == 0 || code == 64 then
      match Value.ofJson out with
      | .ok report => return .found "safety" (← issues report)
      | .error _ => return .nothing "safety"
    else return .trouble "safety" err

/-- Goes through files, each with what a check of it would do, up to the first list of
requirements: the commands that are run, and what comes of them. -/
def check : List (String × Outcome (Int × String × String)) →
    List (List String) × Outcome ToolReport
  | [] => ([], .ok (.nothing "safety"))
  | (path, run) :: rest =>
    if Path.name path == "requirements.txt" then ([command path], do reported (← run))
    else check rest

/-- Checks the files that are looked at, each with what a check of it would do: the
commands that are run, and the report. -/
def scanEach (files : List (String × Outcome (Int × String × String))) :
    List (List String) × ToolReport :=
  let own := files.filter fun file => takes file.1
  if own.isEmpty then ([], .nothing "safety")
  else
    let (commands, outcome) := check own
    (commands, .ofOutcome "safety" "Safety" outcome)

def scan (box : Toolbox) (paths : List String) : ToolReport :=
  (scanEach (paths.map fun path => (path, box.run "safety"))).2

end Safety

end SourceAudit
