/-
A short tour: two sample files are written, scanned and shown issue by issue, and
taken away again whatever happens.
-/
import SourceAudit.Script.Sample
import SourceAudit.Script.Scanning
import SourceAudit.Store.Service

namespace SourceAudit.Tour

open Script Scanning

def files : List (String × String) :=
  [("demo_security_issues.py", Sample.serverScript), ("demo_frontend_issues.js", Sample.pageScript)]

def createFiles : Script (List String) := do
  say "📁 Creating test files..."
  writeSamples files

def mark : String → String
  | "critical" => "🚨"
  | "high" => "⚠️"
  | "medium" => "📋"
  | "low" => "ℹ️"
  | _ => "❓"

/-- Scans a file and says how many issues of each severity it has: the issues. -/
def scanFile (path : String) : Script (List Value) := do
  let issues ← issuesIn path
  say ("      🔍 Found " ++ toString issues.length ++ " security issues")
  for (severity, n) in ← ofOutcome (bySeverity [] issues) do
    let word := severity.shown
    say ("         " ++ mark word ++ " " ++ Text.upper word ++ ": " ++ toString n)
  return issues

/-- Scans files one by one: the issues of all. A file that cannot be scanned has
none. -/
def scanFiles (paths : List String) : Script (List Value) := do
  say "\n🔍 Scanning files for security issues..."
  let found ← paths.mapM fun path => do
    say ("\n   📄 Scanning " ++ Path.name path ++ "...")
    rescue (scanFile path) fun f => do
      say ("      ❌ Error scanning " ++ path ++ ": " ++ f.message)
      return []
  return found.flatten

def showLevel (level : String) (issues : List Value) : Script Unit := do
  if !issues.isEmpty then
    say ("\n" ++ mark level ++ " " ++ Text.upper level ++ " ISSUES (" ++ toString issues.length ++ ")")
    say (thinRule 40)
    numbered (issues.take 5) fun i issue => do
      sayField ("\n" ++ toString i ++ ". ") issue "message" "No message"
      sayFile "   📁 File: " issue
      sayField "   📍 Line: " issue "line_number" "N/A"
      sayField "   💻 Code: " issue "code_snippet" "N/A"
      sayField "   🔧 Fix: " issue "remediation" "Review this issue"

/-- Shows issues in detail, the most severe first, and sums them up. -/
def showDetails (issues : Value) : Script Unit := do
  sayAll ["\n" ++ ruleOf 60, "📊 DETAILED SECURITY ANALYSIS", ruleOf 60]
  let all ← ofOutcome issues.each
  let _ ← ofOutcome (bySeverity [] all)
  let ofLevel (level : String) : List Value :=
    all.filter fun issue => (issue.getD "severity" (.text "unknown")).same (.text level)
  for level in levels do
    showLevel level (ofLevel level)
  sayAll ["\n" ++ ruleOf 60, "📈 SECURITY SUMMARY", ruleOf 60]
  say ("Total Issues Found: " ++ toString (← ofOutcome (Store.size issues)))
  say "Files Scanned: 2"
  let critical := (ofLevel "critical").length
  let high := (ofLevel "high").length
  if 0 < critical then
    say ("🚨 " ++ toString critical ++ " CRITICAL issues need immediate attention!")
  if 0 < high then
    say ("⚠️  " ++ toString high ++ " HIGH priority issues should be fixed soon")
  sayAll ["\n💡 RECOMMENDATIONS:",
    "   1. Fix all CRITICAL issues immediately",
    "   2. Use environment variables for secrets",
    "   3. Implement proper input validation",
    "   4. Use parameterized queries for database access",
    "   5. Sanitize all user inputs to prevent XSS"]

/-- Scans the sample files and shows what was found. -/
def showFiles (paths : List String) : Script Unit := do
  let issues ← scanFiles paths
  if issues.isEmpty then
    sayAll ["\n⚠️  No issues detected. This might indicate:",
      "   - Scanner configuration needs adjustment",
      "   - Pattern matching needs improvement"]
  else
    showDetails (.list issues)
    sayAll ["\n✅ Demo completed successfully!",
      "🔍 Scanned " ++ toString paths.length ++ " files",
      "🚨 Found " ++ toString issues.length ++ " security issues"]

def program : Script Unit := do
  sayAll ["🚀 VibeCodeAuditor Security Scanner Demo", ruleOf 50,
    "This demo shows real security scanning in action!"]
  let paths ← createFiles
  andFinally (showFiles paths) (removeFiles paths)
  sayAll ["\n🎉 VibeCodeAuditor is working perfectly!", "💡 Next steps:",
    "   - Integrate with your CI/CD pipeline",
    "   - Scan your real codebase",
    "   - Set up automated security monitoring"]

end SourceAudit.Tour
