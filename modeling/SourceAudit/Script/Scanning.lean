/-
What the demonstrations share: writing sample files, scanning files one by one and
taking the samples away again.
-/
import SourceAudit.Scan.Security
import SourceAudit.Shell.Script
import SourceAudit.Value.Census

namespace SourceAudit.Scanning

open Script

/-- The severities in the order in which they are shown. -/
def levels : List String := ["critical", "high", "medium", "low"]

def ruleOf (n : Nat) : String := Text.repeated n "="

def thinRule (n : Nat) : String := Text.repeated n "-"

/-- Writes sample files and says which: their paths. -/
def writeSamples (files : List (String × String)) : Script (List String) := do
  for (path, text) in files do
    writeText path text
  for (path, _) in files do
    say ("   ✅ Created " ++ path)
  return files.map Prod.fst

def issuesIn (path : String) : Script (List Value) := do
  if let some reason := (← read).scanFailure then throw (.outside reason)
  return (SecurityScan.scan (← read).box (← get).tree [path]).map Finding.toValue

def bySeverity : Census → List Value → Outcome Census
  | done, [] => .ok done
  | done, issue :: rest => do
    bySeverity (← done.add (← issue.ask "severity" (.text "unknown"))) rest

/-- The file of an issue, without the folders it is in. -/
def fileName (path : Value) : Outcome String :=
  match path with
  | .text s => .ok (Path.name s)
  | v => .error (.notPath v.kind)

def sayField (label : String) (issue : Value) (field fallback : String) : Script Unit := do
  say (label ++ (← ofOutcome (issue.ask field (.text fallback))).shown)

def sayFile (label : String) (issue : Value) : Script Unit := do
  say (label ++ (← ofOutcome (do fileName (← issue.ask "file_path" (.text "")))))

/-- Goes through items with their numbers, from 1 on. -/
def numbered {α : Type} (items : List α) (step : Nat → α → Script Unit) : Script Unit :=
  items.zipIdx.forM fun (x, i) => step (i + 1) x

def removeFiles (paths : List String) : Script Unit := do
  say "\n🧹 Cleaning up demo files..."
  for path in paths do
    if ← isThere path then
      removeFile path
      say ("   🗑️  Removed " ++ path)

end SourceAudit.Scanning
