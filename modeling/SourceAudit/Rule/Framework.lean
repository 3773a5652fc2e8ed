/-
Rules that belong to a framework. All of them look for patterns line by line, in
letters of either case, and close their advice with a link to the framework's
own.
-/
import SourceAudit.Rule.Basic

namespace SourceAudit.Rule

/-- What sets the rule of one framework apart from the others. -/
structure FrameworkRule where
  framework : String
  /-- The framework's name as it stands in messages. -/
  title : String
  /-- What the rule is about, after the framework's name. -/
  subject : String
  severity : Severity
  category : String
  languages : List String
  confidence : Float
  /-- Where the framework's own advice is found. -/
  link : String
  securityCategory : String
  cwe : String
  /-- Pattern, message and advice of each check. -/
  checks : List (String × String × String)

def FrameworkRule.rule (f : FrameworkRule) : Rule where
  id := f.framework ++ ".security"
  description := f.title ++ " " ++ f.subject
  severity := f.severity
  category := f.category
  languages := f.languages
  framework := some f.framework
  confidence := f.confidence
  inspection := .perLine .textLines <| notesOf <| f.checks.map fun (pattern, message, advice) =>
    { pattern := Pattern.ofIgnoringCase pattern
      note :=
        { message := f.title ++ " Security: " ++ message
          remediation := advice ++ ". See: " ++ f.link
          metadata :=
            [("framework", .text f.framework), ("security_category", .text f.securityCategory),
             ("cwe", .text f.cwe)] } }

def django : FrameworkRule where
  framework := "django"
  title := "Django"
  subject := "framework security best practices"
  severity := .high
  category := "security"
  languages := [".py"]
  confidence := 0.9
  link := "https://docs.djangoproject.com/en/stable/topics/security/"
  securityCategory := "configuration"
  cwe := "CWE-16"
  checks :=
    [(r"DEBUG\s*=\s*True", "Debug mode enabled in production",
      "Set DEBUG = False in production settings"),
     (r#"SECRET_KEY\s*=\s*["\'][^"\']{1,20}["\']"#, "Weak or short SECRET_KEY",
      "Use a strong, randomly generated SECRET_KEY of at least 50 characters"),
     (r"ALLOWED_HOSTS\s*=\s*\[\s*\]", "Empty ALLOWED_HOSTS",
      "Configure ALLOWED_HOSTS with your domain names"),
     (r"django\.contrib\.admin.*without.*login_required", "Admin without authentication",
      "Ensure admin interface is properly protected"),
     (r"raw\s*\(.*\)", "Raw SQL query usage",
      "Use Django ORM instead of raw SQL to prevent injection attacks"),
     (r"mark_safe\s*\(", "Using mark_safe",
      "Be cautious with mark_safe() - ensure content is properly sanitized")]

def flask : FrameworkRule where
  framework := "flask"
  title := "Flask"
  subject := "framework security best practices"
  severity := .high
  category := "security"
  languages := [".py"]
  confidence := 0.9
  link := "https://flask.palletsprojects.com/en/2.3.x/security/"
  securityCategory := "configuration"
  cwe := "CWE-16"
  checks :=
    [(r"app\.debug\s*=\s*True", "Debug mode enabled",
      "Disable debug mode in production: app.debug = False"),
     (r"app\.run\(.*debug=True", "Debug mode in app.run()",
      "Remove debug=True from production code"),
     (r#"SECRET_KEY\s*=\s*["\'][^"\']{1,20}["\']"#, "Weak SECRET_KEY",
      "Use a strong, randomly generated SECRET_KEY"),
     (r"render_template_string\s*\(.*request\.", "Template injection risk",
      "Avoid using user input directly in render_template_string()"),
     (r"@app\.route.*methods=.*GET.*POST", "Mixed HTTP methods",
      "Consider separating GET and POST handlers for better security"),
     (r"session\[.*\]\s*=.*request\.", "Unsafe session data",
      "Validate and sanitize data before storing in session")]

def tensorflow : FrameworkRule where
  framework := "tensorflow"
  title := "TensorFlow"
  subject := "ML security and best practices"
  severity := .medium
  category := "ai_ml"
  languages := [".py"]
  confidence := 0.8
  link := "https://www.tensorflow.org/responsible_ai"
  securityCategory := "ml_security"
  cwe := "CWE-20"
  checks :=
    [(r"tf\.saved_model\.load\(.*http", "Loading model from HTTP",
      "Use HTTPS or local paths for model loading to prevent tampering"),
     (r"tf\.keras\.models\.load_model\(.*\.h5.*compile=False", "Loading model without compilation",
      "Consider security implications of loading uncompiled models"),
     (r"tf\.data\.Dataset\.from_generator.*without.*validation", "Unvalidated data pipeline",
      "Validate data inputs in your data pipeline"),
     (r"tf\.py_function\(.*func=.*lambda", "Unsafe py_function usage",
      "Be cautious with tf.py_function - ensure the function is safe"),
     (r"tf\.config\.experimental\.set_memory_growth\(.*False", "Memory growth disabled",
      "Consider enabling memory growth to prevent resource exhaustion"),
     (r"tf\.debugging\.set_log_device_placement\(True\)", "Device placement logging",
      "Disable device placement logging in production")]

def pytorch : FrameworkRule where
  framework := "pytorch"
  title := "PyTorch"
  subject := "ML security and best practices"
  severity := .high
  category := "ai_ml"
  languages := [".py"]
  confidence := 0.9
  link := "https://pytorch.org/docs/stable/notes/serialization.html"
  securityCategory := "ml_security"
  cwe := "CWE-502"
  checks :=
    [(r"torch\.load\([^)]*\)(?!.*map_location)", "Unsafe torch.load without map_location",
      "Always specify map_location in torch.load() to prevent arbitrary code execution"),
     (r"torch\.load\(.*http", "Loading model from HTTP",
      "Use HTTPS or local paths for model loading"),
     (r"pickle\.load.*\.pth", "Using pickle.load with .pth files",
      "Use torch.load() instead of pickle.load() for PyTorch models"),
     (r"torch\.jit\.load\(.*http", "Loading JIT model from HTTP",
      "Use secure sources for JIT model loading"),
     (r"torch\.hub\.load\(.*trust_repo=True", "Trusting repository without verification",
      "Verify repository authenticity before setting trust_repo=True"),
     (r"torch\.autograd\.set_grad_enabled\(False\).*eval\(\)", "Potential gradient leak",
      "Ensure proper context management for gradient computation")]

def react : FrameworkRule where
  framework := "react"
  title := "React"
  subject := "framework security best practices"
  severity := .medium
  category := "security"
  languages := [".js", ".jsx", ".ts", ".tsx"]
  confidence := 0.8
  link := "https://reactjs.org/docs/dom-elements.html#dangerouslysetinnerhtml"
  securityCategory := "xss_prevention"
  cwe := "CWE-79"
  checks :=
    [("dangerouslySetInnerHTML", "Using dangerouslySetInnerHTML",
      "Sanitize HTML content before using dangerouslySetInnerHTML"),
     (r"eval\s*\(", "Using eval()", "Avoid eval() - it can execute arbitrary code"),
     (r"innerHTML\s*=", "Direct innerHTML assignment",
      "Use React's JSX or textContent to prevent XSS"),
     (r"document\.write\s*\(", "Using document.write",
      "Avoid document.write - use React's rendering methods"),
     (r"window\.location\s*=.*user", "Unsafe redirect",
      "Validate URLs before redirecting to prevent open redirects"),
     (r"localStorage\.setItem\(.*password", "Storing sensitive data in localStorage",
      "Don't store sensitive data in localStorage - use secure storage")]

/-- Security of queries made through SQLAlchemy. -/
def sqlalchemy : FrameworkRule where
  framework := "sqlalchemy"
  title := "SQLAlchemy"
  subject := "ORM security best practices"
  severity := .high
  category := "security"
  languages := [".py"]
  confidence := 0.9
  link := "https://docs.sqlalchemy.org/en/14/core/tutorial.html#using-textual-sql"
  securityCategory := "sql_injection"
  cwe := "CWE-89"
  checks :=
    [(r"session\.execute\(.*%.*\)", "String formatting in SQL",
      "Use parameterized queries instead of string formatting"),
     (r"session\.execute\(.*\.format\(", "String format in SQL",
      "Use parameterized queries with bound parameters"),
     (r"text\(.*%.*\)", "String formatting in text() SQL",
      "Use bound parameters with text() queries"),
     (r"engine\.execute\(.*\+.*\)", "String concatenation in SQL",
      "Use parameterized queries instead of string concatenation"),
     (r"create_engine\(.*echo=True", "SQL logging enabled",
      "Disable SQL logging in production (echo=False)"),
     ("autocommit=True", "Autocommit enabled",
      "Be cautious with autocommit - prefer explicit transaction management")]

end SourceAudit.Rule
