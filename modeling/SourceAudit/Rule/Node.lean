/-
Rules for Node.js and Express applications. Their notes name the standards that
the code may break.
-/
import SourceAudit.Rule.Basic
import SourceAudit.Text.Search

namespace SourceAudit.Rule

-- ============================================================= secrets

/-- Names of secrets with a text assigned, what they are, and the standards they break. -/
def nodeSecretChecks : List (String × String × String) :=
  [(r#"(?i)(DB_PASS|DB_PASSWORD|DATABASE_PASSWORD)\s*=\s*[\'"][^\'"]{3,}[\'"]"#,
    "Hardcoded database password", "ISO 27001 A.9.4.3, OWASP A02"),
   (r#"(?i)(JWT_SECRET|JWT_KEY)\s*=\s*[\'"][^\'"]{8,}[\'"]"#,
    "Hardcoded JWT secret", "ISO 27001 A.10.1.2, OWASP A02"),
   (r#"(?i)(API_KEY|APIKEY)\s*=\s*[\'"][^\'"]{10,}[\'"]"#,
    "Hardcoded API key", "ISO 27001 A.9.4.3, OWASP A02"),
   (r#"(?i)(SECRET_KEY|SECRET)\s*=\s*[\'"][^\'"]{8,}[\'"]"#,
    "Hardcoded secret key", "ISO 27001 A.10.1.2, OWASP A02"),
   (r#"(?i)(PRIVATE_KEY|PRIV_KEY)\s*=\s*[\'"][^\'"]{20,}[\'"]"#,
    "Hardcoded private key", "ISO 27001 A.10.1.2, OWASP A02"),
   (r#"(?i)(AWS_SECRET_ACCESS_KEY)\s*=\s*[\'"][A-Za-z0-9/+=]{40}[\'"]"#,
    "Hardcoded AWS secret", "ISO 27001 A.9.4.3, OWASP A02")]

def nodeSecrets : Rule where
  id := "nodejs.hardcoded_secrets"
  description := "Hardcoded credentials and secrets in Node.js code"
  severity := .critical
  category := "security"
  languages := [".js", ".ts", ".jsx", ".tsx"]
  framework := some "nodejs"
  confidence := 0.9
  inspection := .perLine .fileLines <| notesOf <| nodeSecretChecks.map fun (pattern, what, standards) =>
    { pattern := Pattern.of pattern
      note :=
        { message := "Node.js Security: " ++ what
          remediation :=
            "Use environment variables or secure configuration management. " ++
              "Never commit secrets to source code."
          metadata :=
            [("framework", .text "nodejs"), ("cwe", .text "CWE-798"),
             ("iso27001", .text "A.9.4.3, A.10.1.2"), ("owasp", .text "A02-2021"),
             ("standards", .text standards)] } }

-- ============================================================= express

/-- Settings of Express that leave an application open: pattern, what it is, advice, standards. -/
def expressChecks : List (String × String × String × String) :=
  [(r"app\.use\(cors\(\)\)", "Permissive CORS configuration allows any origin",
    r"Configure CORS with specific origins. Use: cors({origin: ['https://yourdomain.com']})",
    "ISO 27001 A.13.1.3, OWASP A05"),
   (r"res\.status\(\d+\)\.json\([^)]*stack[^)]*\)", "Error stack traces exposed to client",
    "Remove stack traces from client responses. Log errors server-side only.",
    "ISO 27001 A.12.4.1, OWASP A09"),
   (r"console\.error\([^)]*stack[^)]*\)", "Stack traces logged to console in production",
    "Use proper logging framework and avoid exposing stack traces.",
    "ISO 27001 A.12.4.1, OWASP A09"),
   (r#"app\.get\([\'"][^\'"]*/admin[^\'\"]*[\'"][^,]*,\s*\([^)]*\)\s*=>\s*{[^}]*res\.json"#,
    "Admin endpoint without authentication middleware",
    "Add authentication middleware before sensitive endpoints.",
    "ISO 27001 A.9.1.2, OWASP A01"),
   (r"jwt\.sign\([^,]+,\s*[^,]+\s*\)", "JWT token without expiration",
    r"Add expiration to JWT tokens: jwt.sign(payload, secret, {expiresIn: '1h'})",
    "ISO 27001 A.9.2.6, OWASP A07"),
   (r"fs\.appendFileSync\([^,]+,\s*JSON\.stringify\([^)]*req\.body[^)]*\)",
    "PII data logged to plaintext file",
    "Encrypt sensitive data before logging and implement proper access controls.",
    "ISO 27001 A.8.2.3, GDPR Art.32"),
   (r#"res\.json\([^}]*[\'"]?dbPass[\'"]?\s*:"#, "Database credentials exposed via API",
    "Never expose credentials through API endpoints.",
    "ISO 27001 A.9.4.3, OWASP A02"),
   (r"const\s+q\s*=\s*req\.body\.q[^;]*;\s*[^;]*query[^;]*q",
    "Potential SQL injection from unsanitized input",
    "Validate and sanitize all user inputs. Use parameterized queries.",
    "ISO 27001 A.14.2.1, OWASP A03")]

/-- The part of a list of standards at a position. -/
def standardAt (position : Nat) (standards : String) : String :=
  (Text.splitBy ", " standards)[position]?.getD ""

/-- Express applications left open by their settings. -/
def expressMisconfiguration : Rule where
  id := "express.security_misconfiguration"
  description := "Express.js security misconfigurations and vulnerabilities"
  severity := .high
  category := "security"
  languages := [".js", ".ts"]
  framework := some "express"
  confidence := 0.8
  inspection := .perLine .textLines <| notesOf <|
    expressChecks.map fun (pattern, what, advice, standards) =>
      { pattern := Pattern.ofIgnoringCase pattern
        note :=
          { message := "Express Security: " ++ what
            remediation := advice
            metadata :=
              [("framework", .text "express"), ("cwe", .text "CWE-16"),
               ("iso27001", .text (standardAt 0 standards)),
               ("owasp", .text (standardAt 1 standards)), ("standards", .text standards)] } }

-- ==================================================== input validation

/-- The first line of a route that takes a request. -/
def routePattern : Pattern :=
  Pattern.of r"app\.(get|post|put|delete)\s*\([^,]+,\s*\([^)]*req[^)]*\)\s*=>\s*{"

def bodyUsePattern : Pattern :=
  Pattern.of r"req\.body\.[a-zA-Z_][a-zA-Z0-9_]*"

def validationPattern : Pattern :=
  Pattern.ofIgnoringCase r"(validate|sanitize|joi\.|yup\.|express-validator)"

/-- What is said about input used without validation. -/
def unvalidatedNote : Note where
  message := "Node.js Security: User input used without validation"
  remediation := "Implement input validation using libraries like Joi, Yup, or express-validator"
  metadata :=
    [("framework", .text "nodejs"), ("cwe", .text "CWE-20"), ("iso27001", .text "A.14.2.1"),
     ("owasp", .text "A03-2021"), ("asvs", .text "V5.1.1")]

/-- Whether one of the lines from `first` to `last` shows validation. -/
def validatedBetween (lines : List String) (first last : Nat) : Bool :=
  ((lines.take last).drop (first - 1)).any validationPattern.occursIn

/-- The remarks on lines numbered from `number` on. `route` is the first line of
the route that is open, if one is; `lines` are all lines of the file. A use of
the request's body is remarked on unless validation shows between the start of
the route and ten lines further on. -/
def unvalidatedFrom (lines : List String) (route : Option Nat) :
    Nat → List String → List Remark
  | _, [] => []
  | number, line :: rest =>
    if routePattern.occursIn line then unvalidatedFrom lines (some number) (number + 1) rest
    else
      let remarks :=
        match route with
        | some first =>
          if bodyUsePattern.occursIn line && !validatedBetween lines first (number + 10) then
            [Remark.mk number (Text.trim line) unvalidatedNote]
          else []
        | none => []
      let route := if Text.trim line == "\x7d);" then none else route
      remarks ++ unvalidatedFrom lines route (number + 1) rest

def inputValidation : Rule where
  id := "nodejs.input_validation"
  description := "Missing input validation and sanitization"
  severity := .high
  category := "security"
  languages := [".js", ".ts"]
  framework := some "nodejs"
  confidence := 0.7
  inspection := .whole fun source =>
    let lines := Text.splitLines source.text
    unvalidatedFrom lines none 1 lines

-- ============================================================= logging

/-- Sensitive data in logs: pattern, what it is, advice, standards. -/
def loggingChecks : List (String × String × String × String) :=
  [(r"console\.log\([^)]*password[^)]*\)", "Password logged to console",
    "Never log passwords or sensitive credentials", "ISO 27001 A.12.4.1, GDPR Art.32"),
   (r"console\.log\([^)]*token[^)]*\)", "Authentication token logged to console",
    "Avoid logging authentication tokens", "ISO 27001 A.12.4.1, OWASP A09"),
   (r"fs\.appendFileSync\([^,]+,\s*[^)]*req\.body[^)]*\)",
    "Request body logged to file without encryption",
    "Encrypt sensitive data before logging and implement access controls",
    "ISO 27001 A.8.2.3, GDPR Art.32"),
   (r"console\.error\([^)]*err\.stack[^)]*\)", "Full error stack traces logged",
    "Log error details securely, avoid exposing stack traces in production",
    "ISO 27001 A.12.4.1, OWASP A09"),
   (r"res\.json\([^}]*stack[^}]*\)", "Error stack trace returned to client",
    "Never return stack traces to clients in production", "ISO 27001 A.12.4.1, OWASP A09")]

/-- Logs that hold what should stay secret. -/
def loggingSecurity : Rule where
  id := "nodejs.logging_security"
  description := "Insecure logging practices and PII exposure"
  severity := .medium
  category := "security"
  languages := [".js", ".ts"]
  framework := some "nodejs"
  confidence := 0.8
  inspection := .perLine .fileLines <| notesOf <|
    loggingChecks.map fun (pattern, what, advice, standards) =>
      { pattern := Pattern.ofIgnoringCase pattern
        note :=
          { message := "Node.js Logging: " ++ what
            remediation := advice
            metadata :=
              [("framework", .text "nodejs"), ("cwe", .text "CWE-532"),
               ("iso27001", .text "A.12.4.1"),
               ("gdpr", .text (if Text.contains "GDPR" standards then "Art.32" else "")),
               ("owasp", .text "A09-2021"), ("standards", .text standards)] } }

-- ====================================================== authentication

/-- Weak or missing authentication: pattern, what it is, advice, standards. -/
def authenticationChecks : List (String × String × String × String) :=
  [(r#"if\s*\(\s*username\s*===\s*[\'"][^\'"]+[\'"]\s*&&\s*password\s*===\s*[\'"][^\'"]+[\'"]\s*\)"#,
    "Hardcoded authentication credentials",
    "Use secure authentication with hashed passwords and proper user management",
    "ISO 27001 A.9.2.1, OWASP A07"),
   (r#"app\.(get|post|put|delete)\s*\([\'"][^\'"]*admin[^\'\"]*[\'"][^,]*,\s*\([^)]*\)\s*=>\s*{(?![^}]*auth)"#,
    "Admin endpoint without authentication middleware",
    "Implement authentication middleware for all admin endpoints",
    "ISO 27001 A.9.1.2, OWASP A01"),
   (r"jwt\.sign\([^,]+,\s*[^,]+\s*\)(?![^;]*expiresIn)", "JWT token without expiration time",
    "Always set expiration time for JWT tokens to limit exposure",
    "ISO 27001 A.9.2.6, OWASP A07"),
   (r"res\.json\([^}]*(?:password|secret|key)[^}]*\)", "Sensitive data exposed in API response",
    "Never include sensitive data in API responses", "ISO 27001 A.9.4.3, OWASP A02")]

def nodeAuthentication : Rule where
  id := "nodejs.authentication"
  description := "Authentication and authorization security issues"
  severity := .high
  category := "security"
  languages := [".js", ".ts"]
  framework := some "nodejs"
  confidence := 0.8
  inspection := .perLine .textLines <| notesOf <|
    authenticationChecks.map fun (pattern, what, advice, standards) =>
      { pattern := Pattern.ofIgnoringCase pattern
        note :=
          { message := "Node.js Authentication: " ++ what
            remediation := advice
            metadata :=
              [("framework", .text "nodejs"), ("cwe", .text "CWE-287"),
               ("iso27001", .text "A.9.2.1"), ("owasp", .text "A07-2021"),
               ("asvs", .text "V2.1.1"), ("standards", .text standards)] } }

def nodeRules : List Rule :=
  [nodeSecrets, expressMisconfiguration, inputValidation, loggingSecurity, nodeAuthentication]

end SourceAudit.Rule
