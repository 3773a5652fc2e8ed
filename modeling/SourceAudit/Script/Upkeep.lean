/-
Looking after what the server has stored: which scans there are, which of them were
never marked as completed, and a repair of the server's own code.
-/
import SourceAudit.Shell.Script
import SourceAudit.Store.Service

namespace SourceAudit.Upkeep

open Script Store

-- =============================================================== scans

/-- The columns of a scan that are shown. -/
structure ScanLine where
  id : Value
  status : Value
  name : Value

def ScanLine.ofRow (row : Value) : Outcome ScanLine := do
  return ⟨← row.pick "id", ← row.pick "status", ← row.ask "name" (.text "unknown")⟩

def ScanLine.start (s : ScanLine) : Outcome String := do
  return "   Scan: " ++ (← s.id.start 8).shown ++ "... | " ++ s.name.shown ++ " | " ++
    s.status.shown ++ " | "

def issuesOf (scan : Value) : Script Value :=
  rows (((Query.table "issues").select "*").eq "scan_id" scan)

/-- Prints a field of an issue, a colon and its message. -/
def sayIssue (indent field : String) (issue : Value) : Script Unit := do
  let first ← ofOutcome (issue.ask field (.text "unknown"))
  let message ← ofOutcome (issue.ask "message" (.text "no message"))
  say (indent ++ "- " ++ first.shown ++ ": " ++ message.shown)

def sayIssues (n : Nat) (indent field : String) (issues : Value) : Script Unit := do
  for issue in ← ofOutcome (do (← issues.start n).each) do
    sayIssue indent field issue

def showScan (row : Value) : Script Unit := do
  let scan ← ofOutcome (ScanLine.ofRow row)
  let created ← ofOutcome (row.pick "created_at")
  say ((← ofOutcome scan.start) ++ created.shown)
  let issues ← issuesOf scan.id
  let n ← ofOutcome (size issues)
  say ("     Issues: " ++ toString n)
  if issues.isTruthy then
    sayIssues 3 "       " "severity" issues
    if 3 < n then say ("       ... and " ++ toString (n - 3) ++ " more")
  say ""

/-- Prints the latest scans and issues: whether the store could be asked. -/
def showStored : Script Bool :=
  rescue (do
    connect
    say "🔍 Checking database for recent issues..."
    let scans ← rows ((((Query.table "scans").select "*").latest "created_at").limit (.int 5))
    say ("📊 Found " ++ toString (← ofOutcome (size scans)) ++ " recent scans:")
    for row in ← ofOutcome scans.each do
      showScan row
    let issues ← rows (((Query.table "issues").select "*").limit (.int 10))
    say ("📋 Total issues in database: " ++ toString (← ofOutcome (size issues)))
    if issues.isTruthy then
      say "Recent issues:"
      sayIssues 5 "   " "rule_id" issues
    return true) fun f => do
    say ("❌ Error checking database: " ++ f.message)
    return false

def completeScan (row : Value) : Script Unit := do
  let scan ← ofOutcome (ScanLine.ofRow row)
  let n ← ofOutcome (size (← issuesOf scan.id))
  say ((← ofOutcome scan.start) ++ "Issues: " ++ toString n)
  if n == 0 then
    say ("     ⚠️ No issues found, leaving as " ++ scan.status.shown)
  else
    let done : Value := .record [("status", .text "completed"), ("total_issues", Value.ofNat n)]
    rescue (do
      let _ ← rows (((Query.table "scans").update done).eq "id" scan.id)
      say ("     ✅ Updated to completed with " ++ toString n ++ " issues")) fun f =>
      say ("     ❌ Failed to update: " ++ f.message)

/-- Marks the latest scans as completed that have issues and are not: whether the
store could be asked. -/
def completeScans : Script Bool :=
  rescue (do
    connect
    say "🔧 Fixing scan status for recent scans..."
    let unfinished := ((Query.table "scans").select "*").neq "status" (.text "completed")
    let scans ← rows ((unfinished.latest "created_at").limit (.int 10))
    say ("📊 Found " ++ toString (← ofOutcome (size scans)) ++ " scans to fix:")
    for row in ← ofOutcome scans.each do
      completeScan row
    return true) fun f => do
    say ("❌ Error fixing scan status: " ++ f.message)
    return false

-- ============================================================== repair

def oldLine : String :=
  "\"message\": issue.get(\"description\", issue.get(\"message\", \"\")),"

def newLine : String :=
  "\"message\": issue.get(\"description\") or issue.get(\"message\") or \"Security issue detected\","

/-- Puts the new line everywhere in the place of the old one. -/
def repairMessages : Script Unit := do
  let file := "vibeauditor/main.py"
  let text ← readText file
  writeText file (Text.replace oldLine newLine text)
  sayAll ["✅ Fixed message field in main.py", "🔧 Changed:", "   OLD: " ++ oldLine,
    "   NEW: " ++ newLine, "\n🚀 Restart the server to apply the fix"]

end SourceAudit.Upkeep
