/-
A walkthrough of the whole system: three sample files are scanned, a report is
written to a file and the worst issues are shown in detail.
-/
import SourceAudit.Script.Sample
import SourceAudit.Script.Scanning
import SourceAudit.Store.Service

namespace SourceAudit.Walkthrough

open Script Scanning

def files : List (String × String) :=
  [("demo_python_issues.py", Sample.longServerScript),
   ("demo_javascript_issues.js", Sample.longPageScript),
   ("demo_config.yaml", Sample.configuration)]

def createFiles : Script (List String) := do
  say "📁 Creating demo files with security issues..."
  writeSamples files

-- ============================================================ scanning

/-- Scans a file, counts its issues and names the first: the issues. -/
def scanFile (path : String) : Script (List Value) := do
  let issues ← issuesIn path
  say ("      🔍 Found " ++ toString issues.length ++ " security issues")
  for (severity, n) in ← ofOutcome (bySeverity [] issues) do
    say ("         " ++ Text.upper severity.shown ++ ": " ++ toString n ++ " issues")
  numbered (issues.take 3) fun i issue =>
    let field (name : String) (fallback : Value) : String := (issue.getD name fallback).shown
    say ("         " ++ toString i ++ ". [" ++ field "rule_id" (.text "unknown") ++ "] Line " ++
      field "line_number" (.int 0) ++ ": " ++ field "message" (.text "No message"))
  return issues

def scanFiles (paths : List String) : Script (List Value) := do
  sayAll ["\n🔍 Demonstrating Security Scanning...", "   ✅ Security scanner initialized"]
  let found ← paths.mapM fun path => do
    say ("\n   📄 Scanning " ++ path ++ "...")
    rescue (scanFile path) fun f => do
      say ("      ❌ Scan failed: " ++ f.message)
      return []
  return found.flatten

-- ============================================================== report

/-- How often severities, rules and files occur. -/
structure Counts where
  severities : Census
  rules : Census
  files : Census

def countsOf : Counts → List Value → Outcome Counts
  | done, [] => .ok done
  | done, issue :: rest => do
    let severity ← issue.ask "severity" (.text "unknown")
    let rule ← issue.ask "rule_id" (.text "unknown")
    let file ← issue.ask "file_path" (.text "unknown")
    countsOf ⟨← done.severities.add severity, ← done.rules.add rule, ← done.files.add file⟩ rest

def Counts.report (c : Counts) (name : Value → String) (total : Nat) (issues : Value) : Value :=
  .record
    [("summary", .record
      [("total_issues", Value.ofNat total), ("files_scanned", Value.ofNat c.files.length),
       ("severity_breakdown", c.severities.recordBy name),
       ("top_issue_types", Census.recordBy name (c.rules.byCount.take 10))]),
     ("issues", issues)]

def ruleTitle (rule : Value) : Outcome String :=
  match rule with
  | .text s => .ok (Text.title (Text.replace "_" " " (Text.replace "custom_rules_" "" s)))
  | v => .error (.noMember v.kind "replace")

def heading (title : String) : Script Unit :=
  sayAll ["\n   " ++ title, "   " ++ thinRule 25]

/-- Prints the counts and writes the report to a file: the report. -/
def writeReport (issues : Value) : Script Value := do
  say "\n📊 Generating Security Report..."
  let all ← ofOutcome issues.each
  let counts ← ofOutcome (countsOf ⟨[], [], []⟩ all)
  let total ← ofOutcome (Store.size issues)
  sayAll ["\n   📈 SECURITY SUMMARY", "   " ++ ruleOf 40,
    "   Total Issues Found: " ++ toString total,
    "   Files Scanned: " ++ toString counts.files.length]
  heading "🚨 ISSUES BY SEVERITY"
  for level in levels do
    let n := counts.severities.count (.text level)
    if 0 < n then
      say ("   " ++ Text.padLeft 8 (Text.upper level) ++ ": " ++ toString n)
  heading "🔍 TOP ISSUE TYPES"
  for (rule, n) in counts.rules.byCount.take 5 do
    say ("   " ++ (← ofOutcome (ruleTitle rule)) ++ ": " ++ toString n)
  heading "📁 ISSUES BY FILE"
  for (file, n) in counts.files do
    say ("   " ++ (← ofOutcome (fileName file)) ++ ": " ++ toString n ++ " issues")
  let report (name : Value → String) : Value := counts.report name total issues
  writeText "security_report.json" (Value.Json.indented (report Census.jsonName))
  say "\n   💾 Detailed report saved to: security_report.json"
  return report Value.shown

-- ============================================================= details

def ofLevel (issues : Value) (level : String) : Outcome (List Value) := do
  let all ← issues.each
  let severities ← all.mapM fun issue => issue.ask "severity" .null
  return (all.zip severities).filterMap fun (issue, s) =>
    if s.same (.text level) then some issue else none

def showIssue (withCode : Bool) (i : Nat) (issue : Value) : Script Unit := do
  sayField ("\n" ++ toString i ++ ". ") issue "message" "No message"
  sayFile "   File: " issue
  sayField "   Line: " issue "line_number" "N/A"
  if withCode then sayField "   Code: " issue "code_snippet" "N/A"
  sayField "   Fix: " issue "remediation" "Review and fix this issue"

def showDetails (issues : Value) : Script Unit := do
  sayAll ["\n🔍 DETAILED ISSUE ANALYSIS", ruleOf 50]
  let critical ← ofOutcome (ofLevel issues "critical")
  let high ← ofOutcome (ofLevel issues "high")
  if !critical.isEmpty then
    sayAll ["\n🚨 CRITICAL ISSUES (" ++ toString critical.length ++ ")", thinRule 30]
    numbered (critical.take 3) (showIssue true)
  if !high.isEmpty then
    sayAll ["\n⚠️  HIGH PRIORITY ISSUES (" ++ toString high.length ++ ")", thinRule 30]
    numbered (high.take 2) (showIssue false)

-- ================================================================ main

def showFindings (paths : List String) (issues : List Value) : Script Unit := do
  let _ ← writeReport (.list issues)
  showDetails (.list issues)
  sayAll ["\n" ++ ruleOf 60, "✅ DEMONSTRATION COMPLETE", ruleOf 60,
    "📊 Scanned " ++ toString paths.length ++ " files",
    "🔍 Found " ++ toString issues.length ++ " security issues",
    "💾 Report saved to security_report.json", "\n🎯 KEY FINDINGS:"]
  let critical ← ofOutcome (ofLevel (.list issues) "critical")
  let high ← ofOutcome (ofLevel (.list issues) "high")
  if !critical.isEmpty then
    say ("   🚨 " ++ toString critical.length ++ " CRITICAL issues require immediate attention")
  if !high.isEmpty then
    say ("   ⚠️  " ++ toString high.length ++ " HIGH priority issues should be fixed soon")
  sayAll ["\n💡 NEXT STEPS:",
    "   1. Review the detailed security_report.json",
    "   2. Fix critical and high-priority issues first",
    "   3. Implement secure coding practices",
    "   4. Set up automated security scanning in CI/CD"]

def program : Script Unit := do
  sayAll ["🚀 VibeCodeAuditor Complete System Demonstration", ruleOf 60]
  let paths ← createFiles
  let issues ← scanFiles paths
  if issues.isEmpty then
    sayAll ["\n⚠️  No issues found. This might indicate:",
      "   - Scanner configuration issues",
      "   - Missing security rules",
      "   - Files don't contain detectable patterns"]
  else
    showFindings paths issues
  removeFiles paths

end SourceAudit.Walkthrough
