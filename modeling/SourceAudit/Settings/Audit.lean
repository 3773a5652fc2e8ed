/-
The settings of an audit: which rules run, which files are scanned, how much of
what is found is kept.

Settings come from files and forms and are kept as they were given; a value of
the wrong kind is noticed where it is used.
-/
import SourceAudit.FileTree
import SourceAudit.Path.Filter
import SourceAudit.Rule.Catalogue
import SourceAudit.Value.Access
import SourceAudit.Value.Yaml.Reader
import SourceAudit.Value.Yaml.Writer

namespace SourceAudit

/-- The settings of an audit, with further ones that have no use here. -/
structure AuditSettings where
  minSeverity : Value
  enabledRules : Value
  disabledRules : Value
  excludePatterns : Value
  includePatterns : Value
  maxPerFile : Value
  /-- The settings that only reports and forms show. -/
  others : List (String × Value)

namespace AuditSettings

def usual : AuditSettings where
  minSeverity := .text "medium"
  enabledRules := .list []
  disabledRules := .list []
  excludePatterns :=
    Value.texts ["*.pyc", "__pycache__", ".git", "node_modules", ".venv", "venv"]
  includePatterns :=
    Value.texts ["*.py", "*.js", "*.ts", "*.java", "*.go", "*.rs", "*.cpp", "*.c"]
  maxPerFile := .int 50
  others :=
    [("python_settings", .record []), ("javascript_settings", .record []),
     ("java_settings", .record []), ("check_data_privacy", .bool true),
     ("check_model_security", .bool true), ("check_bias_detection", .bool true),
     ("include_code_snippets", .bool true), ("show_remediation", .bool true)]

def set (c : AuditSettings) (name : String) (v : Value) : AuditSettings :=
  match name with
  | "min_severity" => { c with minSeverity := v }
  | "enabled_rules" => { c with enabledRules := v }
  | "disabled_rules" => { c with disabledRules := v }
  | "exclude_patterns" => { c with excludePatterns := v }
  | "include_patterns" => { c with includePatterns := v }
  | "max_issues_per_file" => { c with maxPerFile := v }
  | _ => { c with others := Value.put name v c.others }

def fields (c : AuditSettings) : List (String × Value) :=
  [("min_severity", c.minSeverity), ("enabled_rules", c.enabledRules),
   ("disabled_rules", c.disabledRules), ("exclude_patterns", c.excludePatterns),
   ("include_patterns", c.includePatterns), ("max_issues_per_file", c.maxPerFile)] ++ c.others

/-- The entries settings are made of, all optional. -/
def form : Form where
  title := "AuditorConfig.__init__"
  required := []
  optional := usual.fields.map Prod.fst

def ofEntries (entries : List (String × Value)) : Outcome AuditSettings := do
  form.check entries
  return entries.foldl (fun c e => c.set e.1 e.2) usual

-- =============================================================== files

def namedEntries : Value.Yaml.Root → Outcome (List (String × Value))
  | .entries es => es.mapM fun (key, value) =>
    match key with
    | .text name => .ok (name, value)
    | _ => .error .entryNames
  | .other v => .error (.notEntries "vibeauditor.core.config.AuditorConfig" v.kind)

def ofText (text : String) : Outcome AuditSettings := do
  ofEntries (← namedEntries (← Value.Yaml.readRoot text))

def ofJson (text : String) : Outcome AuditSettings := do
  match ← Value.ofJson text with
  | .record entries => ofEntries entries
  | v => .error (.notEntries "vibeauditor.core.config.AuditorConfig" v.kind)

def ofFile (tree : FileTree) (path : String) : Outcome AuditSettings := do
  ofText (← tree.readText path)

def toText (c : AuditSettings) : String :=
  Value.Yaml.block c.fields

/-- Whether two settings agree in all that the form has. -/
def same (a b : AuditSettings) : Bool :=
  form.optional.all fun name =>
    match Value.lookup name a.fields, Value.lookup name b.fields with
    | some x, some y => x.same y
    | _, _ => false

-- =============================================================== rules

/-- Whether a rule is enabled: not if it is disabled; if some rules are enabled by
name, only those; otherwise yes. -/
def isEnabled (c : AuditSettings) (id : String) : Outcome Bool := do
  if c.disabledRules.isTruthy then
    if ← c.disabledRules.holds id then return false
  if c.enabledRules.isTruthy then c.enabledRules.holds id else return true

def filterRules (p : String → Outcome Bool) : List Rule → Outcome (List Rule)
  | [] => .ok []
  | rule :: rest => do
    if ← p rule.id then return rule :: (← filterRules p rest) else filterRules p rest

/-- The rules of an audit. Rules enabled by name run even if they are disabled. -/
def rules (c : AuditSettings) : Outcome (List Rule) :=
  if c.enabledRules.isTruthy then filterRules c.enabledRules.holds Rule.all
  else filterRules c.isEnabled Rule.all

-- =============================================================== files

def fitsPattern (path : String) (pattern : Value) : Outcome Bool :=
  match pattern with
  | .text s => Path.fits s path
  | v =>
    if !v.isTruthy then .error .emptyPattern
    else match v with
      | .list _ => .error (.helperMisuse "intern() argument must be str, not list")
      | v => .error (.notSubscriptable v.kind)

/-- Whether a path fits one of several patterns; later ones are not looked at. -/
def fitsAny (path : String) : List Value → Outcome Bool
  | [] => .ok false
  | pattern :: rest => do
    if ← fitsPattern path pattern then return true else fitsAny path rest

/-- Whether a file is scanned: not if it fits a pattern to exclude; if there are
patterns to include, only if it fits one of them. -/
def scansFile (c : AuditSettings) (path : String) : Outcome Bool := do
  if ← fitsAny path (← c.excludePatterns.each) then return false
  if c.includePatterns.isTruthy then fitsAny path (← c.includePatterns.each) else return true

end AuditSettings

end SourceAudit
