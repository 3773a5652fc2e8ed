/-
What is known about the security of single frameworks.
-/
import SourceAudit.Value.Basic

namespace SourceAudit.Framework

/-- What is known about the security of a framework. -/
structure Advice where
  framework : String
  concerns : List String
  practices : List String
  vulnerabilities : List String
  documentation : String

def advices : List Advice :=
  [{ framework := "django"
     concerns := ["CSRF", "SQL injection", "XSS", "Authentication"]
     practices := ["Use Django ORM", "Validate forms", "Use HTTPS"]
     vulnerabilities := ["Debug mode in production", "Weak SECRET_KEY"]
     documentation := "https://docs.djangoproject.com/en/stable/topics/security/" },
   { framework := "flask"
     concerns := ["Session management", "CSRF", "Input validation"]
     practices := ["Use Flask-WTF", "Validate inputs", "Secure sessions"]
     vulnerabilities := ["Debug mode", "Weak session keys"]
     documentation := "https://flask.palletsprojects.com/en/2.3.x/security/" },
   { framework := "tensorflow"
     concerns := ["Model poisoning", "Data privacy", "Model stealing"]
     practices := ["Validate inputs", "Secure model storage", "Monitor predictions"]
     vulnerabilities := ["Unsafe model loading", "Data leakage"]
     documentation :=
       "https://www.tensorflow.org/responsible_ai/fairness_indicators/guide" },
   { framework := "pytorch"
     concerns := ["Unsafe model loading", "Data privacy", "Model attacks"]
     practices := ["Use safe loading", "Validate data", "Monitor models"]
     vulnerabilities := ["torch.load without map_location", "Pickle vulnerabilities"]
     documentation := "https://pytorch.org/docs/stable/notes/serialization.html" },
   { framework := "react"
     concerns := ["XSS", "CSRF", "Dependency vulnerabilities"]
     practices := ["Sanitize inputs", "Use HTTPS", "Update dependencies"]
     vulnerabilities := ["dangerouslySetInnerHTML", "Outdated packages"]
     documentation := "https://reactjs.org/docs/dom-elements.html#dangerouslysetinnerhtml" }]

/-- What is known about a framework as a record, empty if nothing is. -/
def adviceFor (name : String) : Value :=
  match advices.find? fun a => a.framework == name with
  | some a =>
    .record
      [("security_concerns", Value.texts a.concerns), ("best_practices", Value.texts a.practices),
       ("common_vulnerabilities", Value.texts a.vulnerabilities),
       ("documentation", .text a.documentation)]
  | none => .record []

end SourceAudit.Framework
