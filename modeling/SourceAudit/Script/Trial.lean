/-
Trying the auditor out: the patterns of the scanner on one uploaded file, and a
whole audit of one script.
-/
import SourceAudit.Shell.Auditing

namespace SourceAudit.Trial

open Script

-- ============================================================ patterns

/-- A pattern to try out. -/
structure Probe where
  rule : String
  message : String
  pattern : Pattern

def probes : List Probe :=
  [⟨"hardcoded_password", "Hardcoded password detected",
     Pattern.ofIgnoringCase r#"(password|PASSWORD|PASS)\s*[=:]\s*["\'][^"\']+["\']"#⟩,
   ⟨"hardcoded_api_key", "Hardcoded API key detected",
     Pattern.ofIgnoringCase r#"(api[_-]?key|API[_-]?KEY|apiKey)\s*[=:]\s*["\'][^"\']+["\']"#⟩,
   ⟨"hardcoded_secret", "Hardcoded secret detected",
     Pattern.ofIgnoringCase r#"(secret|SECRET|Secret)\s*[=:]\s*["\'][^"\']+["\']"#⟩,
   ⟨"dangerous_eval", "Use of eval() is dangerous",
     Pattern.ofIgnoringCase r"eval\s*\("⟩]

def uploaded : String := "uploads/289c36cf-8779-4e49-bcfe-b829d0899472_test.js"

/-- Tries the patterns on a line: how many were found in it. -/
def tryLine (number : Nat) (line : String) : Script Nat := do
  let found := probes.filter fun p => p.pattern.occursIn line
  if !found.isEmpty then
    say ("Line " ++ toString number ++ ": " ++ Text.trim line)
    for p in found do
      say ("  ✅ " ++ p.rule ++ ": " ++ p.message)
    say ""
  return found.length

/-- Shows on a line that is known which patterns are found. -/
def explainLine (line : String) : Script Unit := do
  say ("\\nTesting: " ++ line)
  for p in probes do
    match p.pattern.search line with
    | some m => say ("  ✅ Matches " ++ p.rule ++ ": " ++ String.ofList m.text)
    | none => say ("  ❌ No match for " ++ p.rule)

/-- Tries the patterns on the uploaded file. Its lines are taken to end with a
backslash and an `n`. -/
def tryPatterns : Script Unit := do
  if !(← isThere uploaded) then
    say ("❌ File not found: " ++ uploaded)
    return ()
  let content ← readText uploaded
  sayAll ["📁 File content (first 500 chars):", Text.take 500 content,
    "\\n" ++ Text.repeated 50 "=", "🔍 Testing patterns against actual content:", ""]
  let mut total := 0
  for (line, i) in (Text.splitBy "\\n" content).zipIdx do
    total := total + (← tryLine (i + 1) line)
  say ("📊 Total matches found: " ++ toString total)
  if total == 0 then
    say "\\n❌ No matches found. Let's check specific lines:"
    explainLine "const DB_PASS = 'changeme123';"
    explainLine "const JWT_SECRET = 'supersecretjwtkey';"

-- =============================================================== audit

def script : String := "test.js"

def showFinding (i : Nat) (f : Finding) : Script Unit := do
  sayAll ["   " ++ toString i ++ ". " ++ f.rule.shown, "      " ++ f.message.shown]
  let snippet ← ofOutcome (f.snippet.start 50)
  say ("      Line " ++ f.line.shown ++ ": " ++ snippet.shown ++ "...")
  if f.metadata.isTruthy then
    if ← ofOutcome (f.metadata.holds "iso27001") then
      say ("      ISO 27001: " ++ (← ofOutcome (f.metadata.pick "iso27001")).shown)
  say ""

def isServerRule (rule : Value) : Outcome Bool := do
  return (← rule.holds "nodejs") || (← rule.holds "express")

/-- Audits the script and says what was found: whether it is enough. -/
def auditScript : Script Bool := do
  sayAll ["🔍 Quick Node.js Security Test", Text.repeated 40 "="]
  let auditor ← ofOutcome (Auditor.ofSettings .usual)
  if !(← isThere script) then
    say "❌ test.js file not found"
    return false
  say ("📁 Scanning: " ++ script)
  let audit ← performAudit auditor script
  say "\n📊 Results:"
  let totals ← ofOutcome (ReportData.told "get_summary" (← read).totals)
  for (title, field) in [("Total Issues", "total_issues"), ("Critical", "critical"),
      ("High", "high"), ("Medium", "medium")] do
    say ("   " ++ title ++ ": " ++ (← ofOutcome (totals.pick field)).shown)
  if !audit.findings.isEmpty then
    say "\n🎯 Issues Found:"
    for (f, i) in (audit.findings.take 5).zipIdx do
      showFinding (i + 1) f
  let server ← ofOutcome (audit.findings.mapM fun f => isServerRule f.rule)
  let n := (server.filter id).length
  say ("✅ Node.js/Express rules triggered: " ++ toString n)
  if 3 ≤ n then
    say "🎉 Enhanced Node.js detection is working!"
    return true
  say "⚠️  Expected more Node.js security issues to be detected"
  return false

/-- Audits the script: whether enough was found. A failure is told. -/
def tryAudit : Script Bool :=
  rescue auditScript fun f => do
    say ("❌ Error: " ++ f.message)
    return false

/-- Audits the script and ends with a code that tells whether enough was found. -/
def program : Script Unit := do
  let passed ← tryAudit
  say ("\nResult: " ++ if passed then "PASS" else "FAIL")
  exit (if passed then 0 else 1)

end SourceAudit.Trial
