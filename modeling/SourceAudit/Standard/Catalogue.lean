/-
The catalogue of standards: security standards, compliance frameworks, coding
standards and collections of good practice.
-/
import SourceAudit.Value.Basic

namespace SourceAudit

/-- What sort of standard it is. -/
inductive StandardKind where
  | security
  | compliance
  | practice
  | coding
  | industry
  deriving DecidableEq, Repr

def StandardKind.name : StandardKind → String
  | .security => "security"
  | .compliance => "compliance"
  | .practice => "best_practice"
  | .coding => "coding"
  | .industry => "industry"

/-- A standard that code can be held to. -/
structure Standard where
  id : String
  name : String
  kind : StandardKind
  description : String
  link : String
  part : Option String := none
  /-- How severe the standard takes a breach to be. -/
  severity : Option String := none

namespace Standard

def catalogue : List Standard :=
  [{ id := "owasp_top10_2021_a01"
     name := "OWASP Top 10 2021 - A01 Broken Access Control"
     kind := .security
     description :=
       "Restrictions on what authenticated users are allowed to do are often not properly enforced"
     link := "https://owasp.org/Top10/A01_2021-Broken_Access_Control/"
     severity := some "High" },
   { id := "owasp_top10_2021_a02"
     name := "OWASP Top 10 2021 - A02 Cryptographic Failures"
     kind := .security
     description :=
       "Failures related to cryptography which often leads to sensitive data exposure"
     link := "https://owasp.org/Top10/A02_2021-Cryptographic_Failures/"
     severity := some "High" },
   { id := "owasp_top10_2021_a03"
     name := "OWASP Top 10 2021 - A03 Injection"
     kind := .security
     description := "Application is vulnerable to injection attacks"
     link := "https://owasp.org/Top10/A03_2021-Injection/"
     severity := some "Critical" },
   { id := "owasp_top10_2021_a04"
     name := "OWASP Top 10 2021 - A04 Insecure Design"
     kind := .security
     description := "Risks related to design flaws and missing or ineffective control design"
     link := "https://owasp.org/Top10/A04_2021-Insecure_Design/"
     severity := some "High" },
   { id := "owasp_top10_2021_a05"
     name := "OWASP Top 10 2021 - A05 Security Misconfiguration"
     kind := .security
     description :=
       "Security misconfiguration is commonly a result of insecure default configurations"
     link := "https://owasp.org/Top10/A05_2021-Security_Misconfiguration/"
     severity := some "Medium" },
   { id := "owasp_top10_2021_a06"
     name := "OWASP Top 10 2021 - A06 Vulnerable and Outdated Components"
     kind := .security
     description := "Using components with known vulnerabilities"
     link := "https://owasp.org/Top10/A06_2021-Vulnerable_and_Outdated_Components/"
     severity := some "High" },
   { id := "owasp_top10_2021_a07"
     name := "OWASP Top 10 2021 - A07 Identification and Authentication Failures"
     kind := .security
     description := "Confirmation of the user's identity, authentication, and session management"
     link := "https://owasp.org/Top10/A07_2021-Identification_and_Authentication_Failures/"
     severity := some "High" },
   { id := "owasp_top10_2021_a08"
     name := "OWASP Top 10 2021 - A08 Software and Data Integrity Failures"
     kind := .security
     description := "Software and data integrity failures relate to code and infrastructure"
     link := "https://owasp.org/Top10/A08_2021-Software_and_Data_Integrity_Failures/"
     severity := some "High" },
   { id := "owasp_top10_2021_a09"
     name := "OWASP Top 10 2021 - A09 Security Logging and Monitoring Failures"
     kind := .security
     description :=
       "Insufficient logging and monitoring, coupled with missing or ineffective integration"
     link := "https://owasp.org/Top10/A09_2021-Security_Logging_and_Monitoring_Failures/"
     severity := some "Medium" },
   { id := "owasp_top10_2021_a10"
     name := "OWASP Top 10 2021 - A10 Server-Side Request Forgery"
     kind := .security
     description := "SSRF flaws occur whenever a web application is fetching a remote resource"
     link := "https://owasp.org/Top10/A10_2021-Server-Side_Request_Forgery_%28SSRF%29/"
     severity := some "Medium" },
   { id := "nist_csf_identify"
     name := "NIST Cybersecurity Framework - Identify"
     kind := .security
     description := "Develop organizational understanding to manage cybersecurity risk"
     link :=
       "https://www.nist.gov/cyberframework/online-learning/components-framework/core/identify"
     part := some "ID" },
   { id := "nist_csf_protect"
     name := "NIST Cybersecurity Framework - Protect"
     kind := .security
     description := "Develop and implement appropriate safeguards"
     link :=
       "https://www.nist.gov/cyberframework/online-learning/components-framework/core/protect"
     part := some "PR" },
   { id := "nist_800_53_ac"
     name := "NIST SP 800-53 - Access Control"
     kind := .security
     description := "Security controls for federal information systems"
     link := "https://csrc.nist.gov/publications/detail/sp/800-53/rev-5/final"
     part := some "AC - Access Control" },
   { id := "nist_800_53_sc"
     name := "NIST SP 800-53 - System and Communications Protection"
     kind := .security
     description := "System and communications protection controls"
     link := "https://csrc.nist.gov/publications/detail/sp/800-53/rev-5/final"
     part := some "SC - System and Communications Protection" },
   { id := "iso_27001_a12"
     name := "ISO/IEC 27001:2013 - A.12 Operations Security"
     kind := .security
     description := "Ensure correct and secure operations of information processing facilities"
     link := "https://www.iso.org/standard/54534.html"
     part := some "A.12 Operations Security" },
   { id := "iso_27001_a14"
     name := "ISO/IEC 27001:2013 - A.14 System Acquisition, Development and Maintenance"
     kind := .security
     description := "Ensure security is built into information systems"
     link := "https://www.iso.org/standard/54534.html"
     part := some "A.14 System Acquisition, Development and Maintenance" },
   { id := "pci_dss_req_6"
     name := "PCI DSS Requirement 6 - Secure Systems and Applications"
     kind := .compliance
     description := "Develop and maintain secure systems and applications"
     link := "https://www.pcisecuritystandards.org/document_library/"
     part := some "Requirement 6" },
   { id := "sox_404"
     name := "Sarbanes-Oxley Act Section 404"
     kind := .compliance
     description := "Management assessment of internal controls"
     link := "https://www.sec.gov/about/laws/soa2002.pdf"
     part := some "Section 404" },
   { id := "gdpr_art_25"
     name := "GDPR Article 25 - Data Protection by Design and by Default"
     kind := .compliance
     description := "Privacy by design and privacy by default"
     link := "https://gdpr-info.eu/art-25-gdpr/"
     part := some "Article 25" },
   { id := "gdpr_art_32"
     name := "GDPR Article 32 - Security of Processing"
     kind := .compliance
     description := "Appropriate technical and organisational measures"
     link := "https://gdpr-info.eu/art-32-gdpr/"
     part := some "Article 32" },
   { id := "hipaa_164_312"
     name := "HIPAA 45 CFR 164.312 - Technical Safeguards"
     kind := .compliance
     description := "Technical safeguards for electronic protected health information"
     link :=
       "https://www.ecfr.gov/current/title-45/subtitle-A/subchapter-C/part-164/subpart-C/section-164.312"
     part := some "164.312" },
   { id := "sans_top25_cwe_79"
     name := "SANS Top 25 - Cross-site Scripting"
     kind := .security
     description := "Most dangerous software weaknesses"
     link := "https://www.sans.org/top25-software-errors/"
     part := some "CWE-79" },
   { id := "sans_top25_cwe_89"
     name := "SANS Top 25 - SQL Injection"
     kind := .security
     description := "Most dangerous software weaknesses"
     link := "https://www.sans.org/top25-software-errors/"
     part := some "CWE-89" },
   { id := "asvs_v1"
     name := "OWASP ASVS V1 - Architecture, Design and Threat Modeling"
     kind := .security
     description := "Application Security Verification Standard"
     link := "https://owasp.org/www-project-application-security-verification-standard/"
     part := some "V1" },
   { id := "asvs_v2"
     name := "OWASP ASVS V2 - Authentication"
     kind := .security
     description := "Authentication verification requirements"
     link := "https://owasp.org/www-project-application-security-verification-standard/"
     part := some "V2" },
   { id := "asvs_v5"
     name := "OWASP ASVS V5 - Validation, Sanitization and Encoding"
     kind := .security
     description := "Input validation and output encoding requirements"
     link := "https://owasp.org/www-project-application-security-verification-standard/"
     part := some "V5" },
   { id := "eu_ai_act_high_risk"
     name := "EU AI Act - High-Risk AI Systems"
     kind := .compliance
     description := "Requirements for high-risk AI systems under EU regulation"
     link :=
       "https://digital-strategy.ec.europa.eu/en/policies/european-approach-artificial-intelligence"
     part := some "Article 6" },
   { id := "nist_ai_rmf_govern"
     name := "NIST AI RMF - Govern Function"
     kind := .security
     description := "AI Risk Management Framework - Governance"
     link := "https://www.nist.gov/itl/ai-risk-management-framework"
     part := some "GOVERN" },
   { id := "nist_ai_rmf_measure"
     name := "NIST AI RMF - Measure Function"
     kind := .security
     description := "AI Risk Management Framework - Measurement"
     link := "https://www.nist.gov/itl/ai-risk-management-framework"
     part := some "MEASURE" },
   { id := "pep8"
     name := "PEP 8 - Style Guide for Python Code"
     kind := .coding
     description := "Python Enhancement Proposal 8"
     link := "https://pep8.org/"
     part := some "Style Guide" },
   { id := "google_style_python"
     name := "Google Python Style Guide"
     kind := .coding
     description := "Google's Python coding standards"
     link := "https://google.github.io/styleguide/pyguide.html" },
   { id := "airbnb_javascript"
     name := "Airbnb JavaScript Style Guide"
     kind := .coding
     description := "A mostly reasonable approach to JavaScript"
     link := "https://github.com/airbnb/javascript" },
   { id := "microsoft_sdl"
     name := "Microsoft Security Development Lifecycle"
     kind := .practice
     description := "Security practices for software development"
     link := "https://www.microsoft.com/en-us/securityengineering/sdl/" },
   { id := "google_secure_coding"
     name := "Google Secure Coding Practices"
     kind := .practice
     description := "Security best practices for developers"
     link := "https://developers.google.com/web/fundamentals/security/" },
   { id := "aws_security_best_practices"
     name := "AWS Security Best Practices"
     kind := .practice
     description := "Security best practices for AWS"
     link := "https://aws.amazon.com/architecture/security-identity-compliance/" }]

def withId? (id : String) : Option Standard :=
  catalogue.find? fun s => s.id == id

def toValue (s : Standard) : Value :=
  .record
    [("id", .text s.id), ("name", .text s.name), ("type", .text s.kind.name),
     ("description", .text s.description), ("url", .text s.link),
     ("section", Value.ofText? s.part), ("severity_mapping", Value.ofText? s.severity)]

end Standard

end SourceAudit
