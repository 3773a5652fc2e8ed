/-
Rules on security in any language: secrets in the code, database queries built
from text, random numbers that can be guessed.
-/
import SourceAudit.Rule.Basic
import SourceAudit.Text.Search

namespace SourceAudit.Rule

-- ============================================================= secrets

/-- Patterns of a name with a secret assigned to it, the secret being the second
group, and what kind of secret it is. -/
def secretPatterns : List (Pattern × String) :=
  [(Pattern.of r#"(?i)(api[_-]?key|apikey)\s*[=:]\s*["\']([a-zA-Z0-9_-]{20,})["\']"#, "API Key"),
   (Pattern.of r#"(?i)(secret[_-]?key|secretkey)\s*[=:]\s*["\']([a-zA-Z0-9_-]{20,})["\']"#,
    "Secret Key"),
   (Pattern.of r#"(?i)(password|pwd)\s*[=:]\s*["\']([^"\']{8,})["\']"#, "Password"),
   (Pattern.of r#"(?i)(token)\s*[=:]\s*["\']([a-zA-Z0-9_-]{20,})["\']"#, "Token"),
   (Pattern.of r#"(?i)(aws[_-]?access[_-]?key[_-]?id)\s*[=:]\s*["\']([A-Z0-9]{20})["\']"#,
    "AWS Access Key"),
   (Pattern.of r#"(?i)(aws[_-]?secret[_-]?access[_-]?key)\s*[=:]\s*["\']([a-zA-Z0-9/+=]{40})["\']"#,
    "AWS Secret Key")]

/-- Words that give away a value made up for a test or an example. -/
def placeholderWords : List String :=
  ["test", "example", "demo", "placeholder", "your_key_here", "xxx", "123", "abc", "fake", "dummy",
   "sample"]

/-- Whether a value may be a real secret: it holds none of the placeholder words,
in letters of either case. -/
def isLikelySecret (value : String) : Bool :=
  let small := Text.lower value
  !placeholderWords.any fun word => Text.contains word small

def secretNotes (line : String) (entry : Pattern × String) : List Note :=
  ((entry.1.all line).filter fun found => isLikelySecret ((found.group? 2).getD "")).map fun _ =>
    { message := "Potential hardcoded " ++ Text.lower entry.2 ++ " detected"
      remediation :=
        "Move " ++ Text.lower entry.2 ++ " to environment variables or secure configuration"
      metadata := [("secret_type", .text entry.2)] }

/-- Secrets, keys and passwords written into the code. -/
def hardcodedSecrets : Rule where
  id := "security.hardcoded_secrets"
  description := "Detects hardcoded secrets, API keys, and credentials"
  severity := .high
  category := "security"
  confidence := 0.8
  inspection := .perLine .fileLines fun line => secretPatterns.flatMap (secretNotes line)

-- ============================================================= queries

/-- Database queries put together from text. -/
def queryPatterns : List Pattern :=
  [Pattern.of r#"(?i)(execute|query|exec)\s*\(\s*["\'].*%s.*["\']"#,
   Pattern.of r"(?i)(execute|query|exec)\s*\(\s*.*\+.*\)",
   Pattern.of r#"(?i)f["\'].*select.*{.*}.*["\']"#]

/-- Queries into which foreign text can slip. -/
def sqlInjection : Rule where
  id := "security.sql_injection"
  description := "Detects potential SQL injection vulnerabilities"
  severity := .high
  category := "security"
  languages := [".py", ".js", ".ts", ".java"]
  confidence := 0.7
  inspection := .perLine .fileLines <| notesOf <| queryPatterns.map fun pattern =>
    { pattern
      note :=
        { message := "Potential SQL injection vulnerability detected"
          remediation := "Use parameterized queries or prepared statements" } }

-- ====================================================== random numbers

def randomPatterns : List (Pattern × String) :=
  [(Pattern.of r"import random\b", "Python's random module is not cryptographically secure"),
   (Pattern.of r"Math\.random\(\)", "JavaScript's Math.random() is not cryptographically secure"),
   (Pattern.of r"random\.random\(\)", "random.random() is not cryptographically secure")]

def insecureRandom : Rule where
  id := "security.insecure_random"
  description := "Detects use of insecure random number generators"
  severity := .medium
  category := "security"
  languages := [".py", ".js", ".ts"]
  confidence := 0.9
  inspection := .perLine .textLines <| notesOf <| randomPatterns.map fun (pattern, why) =>
    { pattern
      note :=
        { message := "Insecure random number generator: " ++ why
          remediation :=
            "Use cryptographically secure random generators (e.g., secrets module in Python, " ++
              "crypto.getRandomValues() in JavaScript)" } }

def securityRules : List Rule :=
  [hardcodedSecrets, sqlInjection, insecureRandom]

end SourceAudit.Rule
