/-
Scans of our own: patterns looked for in every line of every file, and two checks
of script files.
-/
import SourceAudit.Pattern.Reader
import SourceAudit.Scan.Tool

namespace SourceAudit

-- ======================================================= line patterns

namespace CustomScan

/-- A pattern that marks a line. -/
structure Mark where
  id : String
  message : String
  severity : String
  remediation : String
  pattern : Pattern

/-- The patterns, in the order in which a line is checked for them. -/
def marks : List Mark :=
  [⟨"hardcoded_password", "Hardcoded password detected", "CRITICAL",
    "Use environment variables or secure configuration",
    .ofIgnoringCase r#"(DB_PASS|PASSWORD|password|PASS)\s*=\s*["\'][^"\']+["\']"#⟩,
   ⟨"hardcoded_secret", "Hardcoded secret detected", "CRITICAL",
    "Use secure secret management",
    .ofIgnoringCase r#"(JWT_SECRET|SECRET|secret|Secret)\s*=\s*["\'][^"\']+["\']"#⟩,
   ⟨"hardcoded_api_key", "Hardcoded API key detected", "CRITICAL",
    "Use environment variables or secure key management",
    .ofIgnoringCase r#"(API_KEY|api_key|apiKey)\s*[=:]\s*["\'][^"\']+["\']"#⟩,
   ⟨"hardcoded_credentials_object", "Hardcoded credentials in object detected", "HIGH",
    "Use secure configuration management",
    .ofIgnoringCase r#"(dbPass|dbUser|password|secret)\s*:\s*["\'][^"\']+["\']"#⟩,
   ⟨"dangerous_eval", "Use of eval() is dangerous and should be avoided", "HIGH",
    "Replace eval() with safer alternatives", .ofIgnoringCase r"eval\s*\("⟩,
   ⟨"xss_innerHTML", "Direct innerHTML assignment can lead to XSS vulnerabilities", "MEDIUM",
    "Use textContent or proper sanitization", .ofIgnoringCase r"\.innerHTML\s*="⟩,
   ⟨"information_disclosure", "Stack trace exposed to client (information disclosure)", "MEDIUM",
    "Log errors server-side only, return generic error messages",
    .ofIgnoringCase r"err\.stack"⟩,
   ⟨"permissive_cors", "Permissive CORS configuration detected", "MEDIUM",
    "Configure CORS with specific allowed origins", .ofIgnoringCase r"cors\(\)"⟩,
   ⟨"unprotected_admin_endpoint", "Admin endpoint may lack proper authentication", "HIGH",
    "Add authentication middleware to admin endpoints", .ofIgnoringCase r"\/admin\/"⟩]

def Mark.issue (m : Mark) (path : String) (number : Nat) (line : String) : Value :=
  toolIssue (.text m.id) (.text m.message) (.text m.severity) (.text path)
    (Value.ofNat number) (.text (Text.trim line)) (.text m.remediation) (.real 0.8)

def lineIssues (path line : String) (number : Nat) : List Value :=
  (marks.filter fun m => m.pattern.occursIn line).map fun m => m.issue path number line

def textIssues (path text : String) : List Value :=
  ((Text.splitOnChar '\n' text).zipIdx 1).flatMap fun (line, number) =>
    lineIssues path line number

/-- The issues of files; one that cannot be read has none. -/
def scan (tree : FileTree) (paths : List String) : ToolReport :=
  .found "custom_rules" (paths.flatMap fun path =>
    match tree.readText path with
    | .ok text => textIssues path text
    | .error _ => [])

end CustomScan

-- ======================================================= script checks

namespace ScriptScan

/-- The number of the first line with a text in it; the first line if none has. -/
def lineOf (needle text : String) : Nat :=
  (((Text.splitOnChar '\n' text).zipIdx 1).find? fun l => Text.contains needle l.1).elim 1 Prod.snd

def textIssues (path text : String) : List Value :=
  (if Text.contains "eval(" text then
    [toolIssue (.text "eslint_no_eval")
      (.text "Use of eval() is dangerous and should be avoided") (.text "HIGH") (.text path)
      (Value.ofNat (lineOf "eval(" text)) (.text "eval(...)")
      (.text "Replace eval() with safer alternatives") (.real 0.9)]
   else []) ++
  (if Text.contains "innerHTML" text && Text.contains "=" text then
    [toolIssue (.text "eslint_no_inner_html")
      (.text "Direct innerHTML assignment can lead to XSS vulnerabilities") (.text "MEDIUM")
      (.text path) (Value.ofNat (lineOf "innerHTML" text)) (.text "element.innerHTML = ...")
      (.text "Use textContent or proper sanitization") (.real 0.7)]
   else [])

def takes (path : String) : Bool :=
  [".js", ".jsx", ".ts", ".tsx"].contains (Path.ending path)

/-- The issues of scripts; one that cannot be read ends the scan. -/
def scan (tree : FileTree) (paths : List String) : Outcome ToolReport := do
  let found ← (paths.filter takes).mapM fun path => do
    return textIssues path (← tree.readText path)
  return .found "eslint_security" found.flatten

end ScriptScan

end SourceAudit
