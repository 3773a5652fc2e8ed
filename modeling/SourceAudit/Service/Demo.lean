/-
The results of a scan for show: five issues of a small web server.
-/
import SourceAudit.Value.Basic

namespace SourceAudit.Demo

def standard (id name kind url part : String) : Value :=
  .record [("id", .text id), ("name", .text name), ("type", .text kind), ("url", .text url),
    ("section", .text part)]

/-- An issue of the small web server. -/
def issue (rule severity message : String) (line : Int) (snippet remediation : String)
    (confidence : Float) (metadata : List (String × String)) (standards : List Value)
    (frameworks : List String) : Value :=
  .record [("rule_id", .text rule), ("severity", .text severity), ("category", .text "security"),
    ("message", .text message), ("file_path", .text "/tmp/vibeaudit_demo/test.js"),
    ("line_number", .int line), ("code_snippet", .text snippet),
    ("remediation", .text remediation), ("confidence", .real confidence),
    ("metadata", .record (metadata.map fun (k, v) => (k, .text v))),
    ("standards", .list standards), ("compliance_frameworks", Value.texts frameworks)]

/-- A framework of the small web server. -/
def framework (name kind : String) (confidence : Float) (files : List String) : Value :=
  .record [("name", .text name), ("type", .text kind), ("confidence", .real confidence),
    ("files", Value.texts files)]

def touched (name : String) (count : Int) : Value :=
  .record [("name", .text name), ("count", .int count)]

def issues : List Value :=
  [issue "nodejs.hardcoded_secrets" "critical"
     "Node.js Security: Hardcoded JWT secret" 20
     "const JWT_SECRET = 'supersecretjwtkey'; // <-- hard-coded secret"
     "Use environment variables or secure configuration management. Never commit secrets to source code."
     0.9
     [("framework", "nodejs"), ("cwe", "CWE-798"), ("iso27001", "A.9.4.3, A.10.1.2"), ("owasp", "A02-2021"), ("gdpr", "Art. 32")]
      [standard "iso27001_a943" "ISO 27001" "security"
         "https://www.iso.org/standard/54534.html"
         "A.9.4.3 - Access Control",
       standard "owasp_a02_2021" "OWASP Top 10 2021" "security"
         "https://owasp.org/Top10/A02_2021-Cryptographic_Failures/"
         "A02-2021 - Cryptographic Failures",
       standard "cwe_798" "CWE" "security"
         "https://cwe.mitre.org/data/definitions/798.html"
         "CWE-798 - Use of Hard-coded Credentials"]
     ["ISO 27001", "OWASP", "GDPR", "PCI DSS"],
   issue "express.security_misconfiguration" "high"
     "Express Security: Permissive CORS configuration allows any origin" 12
     "app.use(cors());"
     "Configure CORS with specific origins. Use: cors(\x7borigin: ['https://yourdomain.com']\x7d)"
     0.8
     [("framework", "express"), ("cwe", "CWE-346"), ("iso27001", "A.13.1.3"), ("owasp", "A05-2021")]
      [standard "iso27001_a1313" "ISO 27001" "security"
         "https://www.iso.org/standard/54534.html"
         "A.13.1.3 - Network Controls",
       standard "owasp_a05_2021" "OWASP Top 10 2021" "security"
         "https://owasp.org/Top10/A05_2021-Security_Misconfiguration/"
         "A05-2021 - Security Misconfiguration"]
     ["ISO 27001", "OWASP", "PCI DSS"],
   issue "nodejs.information_disclosure" "high"
     "Node.js Logging: Error stack trace returned to client" 18
     "res.status(500).json(\x7b error: err.message, stack: err.stack \x7d);"
     "Never return stack traces to clients in production"
     0.8
     [("framework", "nodejs"), ("cwe", "CWE-209"), ("iso27001", "A.12.4.1"), ("owasp", "A09-2021")]
      [standard "iso27001_a1241" "ISO 27001" "security"
         "https://www.iso.org/standard/54534.html"
         "A.12.4.1 - Event Logging"]
     ["ISO 27001", "OWASP"],
   issue "nodejs.authentication" "critical"
     "Node.js Authentication: Admin endpoint without authentication middleware" 25
     "app.get('/admin/config', (req, res) => \x7b"
     "Implement authentication middleware for all admin endpoints"
     0.8
     [("framework", "nodejs"), ("cwe", "CWE-306"), ("iso27001", "A.9.1.2"), ("owasp", "A07-2021")]
      [standard "iso27001_a912" "ISO 27001" "security"
         "https://www.iso.org/standard/54534.html"
         "A.9.1.2 - Access to Networks and Network Services"]
     ["ISO 27001", "OWASP", "PCI DSS"],
   issue "nodejs.logging_security" "medium"
     "Node.js Logging: Request body logged to file without encryption" 42
     "fs.appendFileSync('./app_logs.txt', JSON.stringify(req.body));"
     "Encrypt sensitive data before logging and implement access controls"
     0.8
     [("framework", "nodejs"), ("cwe", "CWE-532"), ("iso27001", "A.8.2.3"), ("gdpr", "Art.32")]
      [standard "gdpr_art32" "GDPR" "compliance"
         "https://gdpr-info.eu/art-32-gdpr/"
         "Art. 32 - Security of Processing"]
     ["GDPR", "HIPAA"]]

def results : Value :=
  .record
    [("scan_id", .text "demo-scan-123"),
     ("summary", .record
       [("total_issues", .int 5), ("critical", .int 2), ("high", .int 2), ("medium", .int 1), ("low", .int 0), ("files_scanned", .int 3), ("files_with_errors", .int 0)]),
     ("compliance_summary", .record
       [("ISO 27001", touched "ISO 27001" 4),
        ("OWASP", touched "OWASP Top 10" 3),
        ("GDPR", touched "GDPR" 2),
        ("PCI DSS", touched "PCI DSS" 2),
        ("HIPAA", touched "HIPAA" 1)]),
     ("detected_frameworks", .record
       [("nodejs", framework "Node.js" "runtime" 0.95 ["test.js", "package.json"]),
        ("express", framework "Express.js" "web_framework" 0.88 ["test.js"])]),
     ("issues", .list issues),
     ("errors", .record [])]

end SourceAudit.Demo
