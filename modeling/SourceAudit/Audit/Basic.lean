/-
The audit of a project: detects its frameworks, runs the rules over its files and
maps what they find to industry standards.

An auditor keeps its rules from one audit to the next: each audit adds those of
the frameworks it detects. Where results cannot be gathered (`gathers` is false),
an audit fails at its first file.
-/
import SourceAudit.Framework.Detection
import SourceAudit.Scan.Outline
import SourceAudit.Settings.Audit
import SourceAudit.Standard.Compliance

namespace SourceAudit

/-- Settings and the rules that are in use. -/
structure Auditor where
  settings : AuditSettings
  rules : List Rule

/-- What an audit found. -/
structure Audit where
  frameworks : Framework.Detections
  findings : List Finding
  /-- The files that could not be scanned, each with the reason. -/
  errors : List (String × String)
  summary : ComplianceSummary

namespace Auditor

/-- An auditor with the rules its settings ask for. -/
def ofSettings (c : AuditSettings) : Outcome Auditor :=
  return ⟨c, ← c.rules⟩

-- =============================================================== files

def filterPaths (p : String → Outcome Bool) : List String → Outcome (List String)
  | [] => .ok []
  | path :: rest => do
    if ← p path then return path :: (← filterPaths p rest) else filterPaths p rest

def filesOf (a : Auditor) (tree : FileTree) (folder : String) : Outcome (List String) :=
  filterPaths a.settings.scansFile (tree.filesBelow folder)

/-- Whether a number of findings is over a limit as it was given. -/
def isOver (n : Nat) (limit : Value) : Outcome Bool :=
  match limit with
  | .real x => .ok (decide (x < Float.ofNat n))
  | limit =>
    match limit.asWhole? with
    | some k => .ok (decide (k < (n : Int)))
    | none => .error (.noOrder ">" "int" limit.kind)

/-- The first findings up to a limit; a negative limit counts from the end. -/
def limitTo (limit : Value) (findings : List Finding) : Outcome (List Finding) := do
  if ← isOver findings.length limit then
    match limit.asWhole? with
    | some k =>
      return findings.take (if 0 ≤ k then k else (findings.length : Int) + k).toNat
    | none =>
      .error (.helperMisuse "slice indices must be integers or None or have an __index__ method")
  else return findings

def sourceAt (tree : FileTree) (path : String) : Option Source :=
  match tree.read path with
  | .ok bytes => some ⟨bytes⟩
  | .error _ => none

/-- What the rules find in a file. Files in no known language are left alone. -/
def scanFile (a : Auditor) (gathers : Bool) (tree : FileTree) (path : String) :
    Outcome (List Finding) :=
  if (Language.ofPath? path).isNone then .ok []
  else
    limitTo a.settings.maxPerFile
      ((a.rules.filter (Rule.appliesTo · path)).flatMap fun rule =>
        rule.check gathers path (sourceAt tree path))

-- =============================================================== audit

/-- What scanning a file gave, put in front of what later files gave: its findings,
or the reason why it could not be scanned. -/
def gather (path : String) (given : Outcome (List Finding))
    (later : List Finding × List (String × String)) : List Finding × List (String × String) :=
  match given with
  | .ok findings => (findings ++ later.1, later.2)
  | .error why => (later.1, (path, why.message) :: later.2)

/-- What is found in several files, and those that could not be scanned. -/
def scanFiles (a : Auditor) (tree : FileTree) :
    List String → List Finding × List (String × String)
  | [] => ([], [])
  | path :: rest => gather path (a.scanFile true tree path) (scanFiles a tree rest)

/-- The auditor with the rules of the frameworks that were detected. -/
def learn (a : Auditor) (found : Framework.Detections) : Auditor :=
  { a with rules := a.rules ++ Rule.forFrameworks (found.map Prod.fst) }

/-- The audit of a project, given the frameworks that were detected in it. -/
def auditWith (a : Auditor) (gathers : Bool) (tree : FileTree) (target : String)
    (found : Framework.Detections) : Outcome Audit := do
  let files ← if tree.isFile target then pure [target] else a.filesOf tree target
  if !gathers && !files.isEmpty then .error (.noMember "AuditResults" "add_error")
  let (findings, errors) := a.scanFiles tree files
  let (findings, summary) ← withCompliance findings
  return ⟨found, findings, errors, summary⟩

def audit (a : Auditor) (gathers : Bool) (tree : FileTree) (target : String) :
    Outcome Audit × Auditor :=
  let found := Framework.detect tree target
  let a := if found.isEmpty then a else a.learn found
  (a.auditWith gathers tree target found, a)

end Auditor

namespace Audit

/-- What is said before files are scanned. -/
def opening (found : Framework.Detections) : String :=
  let names := found.map Prod.fst
  let added := (Rule.forFrameworks names).length
  "🔍 Detecting frameworks...\n" ++
    if names.isEmpty then "📋 No specific frameworks detected, using general rules\n"
    else "📋 Detected frameworks: " ++ ", ".intercalate names ++ "\n" ++
      "✅ Added " ++ toString added ++ " framework-specific rules\n"

/-- What is said after files were scanned. -/
def closing (a : Audit) : String :=
  "📋 Mapping issues to industry standards...\n" ++
    "✅ Mapped " ++ toString a.findings.length ++ " issues to industry standards\n"

def report (a : Audit) : String :=
  opening a.frameworks ++ a.closing

end Audit

end SourceAudit
