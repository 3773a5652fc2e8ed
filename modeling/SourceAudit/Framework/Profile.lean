/-
The frameworks that can be told apart, and what gives each of them away: patterns
in source text, and files and folders at the top of a project.
-/
import SourceAudit.Pattern.Reader

namespace SourceAudit.Framework

/-- What a framework is for. -/
inductive Area where
  | web
  | learning
  | database
  | cloud
  | testing
  | security
  | frontend
  | mobile
  deriving DecidableEq, Repr

def Area.name : Area → String
  | .web => "web"
  | .learning => "ml"
  | .database => "database"
  | .cloud => "cloud"
  | .testing => "testing"
  | .security => "security"
  | .frontend => "frontend"
  | .mobile => "mobile"

def Area.all : List Area :=
  [.web, .learning, .database, .cloud, .testing, .security, .frontend, .mobile]

/-- What gives a framework away. -/
structure Profile where
  name : String
  area : Area
  /-- Patterns in source text, letters of either case. -/
  patterns : List String
  /-- Files at the top of a project. -/
  files : List String
  /-- Folders at the top of a project. -/
  folders : List String

def profiles : List Profile :=
  [{ name := "django"
     area := .web
     patterns := ["from django", "import django", "DJANGO_SETTINGS_MODULE", r"django\.conf"]
     files := ["manage.py", "settings.py", "wsgi.py"]
     folders := ["migrations"] },
   { name := "flask"
     area := .web
     patterns := ["from flask", "import flask", r"Flask\(__name__\)", r"@app\.route"]
     files := ["app.py", "wsgi.py"]
     folders := ["templates", "static"] },
   { name := "fastapi"
     area := .web
     patterns := ["from fastapi", "import fastapi", r"FastAPI\(", r"@app\.(get|post|put|delete)"]
     files := ["main.py"]
     folders := [] },
   { name := "tensorflow"
     area := .learning
     patterns := ["import tensorflow", "from tensorflow", r"tf\.", r"keras\."]
     files := []
     folders := ["models", "checkpoints"] },
   { name := "pytorch"
     area := .learning
     patterns := ["import torch", "from torch", r"torch\.", r"nn\.Module"]
     files := []
     folders := ["models", "checkpoints"] },
   { name := "scikit-learn"
     area := .learning
     patterns := ["from sklearn", "import sklearn", r"sklearn\."]
     files := []
     folders := [] },
   { name := "pandas"
     area := .learning
     patterns := ["import pandas", r"pd\.", "DataFrame"]
     files := []
     folders := ["data"] },
   { name := "numpy"
     area := .learning
     patterns := ["import numpy", r"np\.", "ndarray"]
     files := []
     folders := [] },
   { name := "react"
     area := .frontend
     patterns := ["import.*react", "from.*react", r"React\.", "useState", "useEffect"]
     files := ["package.json"]
     folders := ["src", "public"] },
   { name := "vue"
     area := .frontend
     patterns := ["import.*vue", "from.*vue", r"Vue\.", "<template>"]
     files := ["vue.config.js"]
     folders := ["src"] },
   { name := "angular"
     area := .frontend
     patterns := ["@angular", "import.*@angular", "@Component", "@Injectable"]
     files := ["angular.json"]
     folders := ["src/app"] },
   { name := "express"
     area := .web
     patterns := [r#"require\([\'"]express[\'"]\)"#, "import.*express", r"app\.get\(", r"app\.post\(",
        r"app\.use\(", r"express\(\)"]
     files := ["server.js", "app.js", "index.js"]
     folders := ["routes", "middleware"] },
   { name := "nodejs"
     area := .web
     patterns := [r#"require\([\'"]"#, r"module\.exports", r"process\.env", "__dirname", r"console\.log"]
     files := ["package.json", "server.js", "app.js", "index.js"]
     folders := ["node_modules"] },
   { name := "sqlalchemy"
     area := .database
     patterns := ["from sqlalchemy", "import sqlalchemy", "declarative_base", "Column"]
     files := []
     folders := ["migrations"] },
   { name := "mongoose"
     area := .database
     patterns := [r#"require\([\'"]mongoose[\'"]\)"#, "import.*mongoose", r"mongoose\.", r"Schema\("]
     files := []
     folders := ["models"] },
   { name := "aws-sdk"
     area := .cloud
     patterns := ["import boto3", "from boto3", "aws-sdk", r"AWS\."]
     files := []
     folders := [] },
   { name := "google-cloud"
     area := .cloud
     patterns := [r"from google\.cloud", r"import.*google\.cloud", "gcp"]
     files := []
     folders := [] },
   { name := "pytest"
     area := .testing
     patterns := ["import pytest", r"@pytest\.", "def test_"]
     files := ["pytest.ini", "conftest.py"]
     folders := ["tests"] },
   { name := "jest"
     area := .testing
     patterns := [r"describe\(", r"it\(", r"test\(", r"expect\("]
     files := ["jest.config.js"]
     folders := ["__tests__"] },
   { name := "oauth"
     area := .security
     patterns := ["oauth", "OAuth", "access_token", "refresh_token"]
     files := []
     folders := [] },
   { name := "jwt"
     area := .security
     patterns := ["import jwt", "jsonwebtoken", "JWT", "token"]
     files := []
     folders := [] }]

def profile? (name : String) : Option Profile :=
  profiles.find? fun p => p.name == name

def readProfiles : List (Profile × List Pattern) :=
  profiles.map fun p => (p, p.patterns.map Pattern.ofIgnoringCase)

/-- Packages of a Python requirements file and the frameworks they belong to. -/
def requirementPackages : List (String × String) :=
  [("django", "django"), ("flask", "flask"), ("fastapi", "fastapi"), ("tensorflow", "tensorflow"),
   ("torch", "pytorch"), ("sklearn", "scikit-learn"), ("pandas", "pandas"), ("numpy", "numpy"),
   ("sqlalchemy", "sqlalchemy"), ("boto3", "aws-sdk"), ("pytest", "pytest")]

/-- Packages of a Node.js package file and the frameworks they belong to. -/
def nodePackages : List (String × String) :=
  [("react", "react"), ("vue", "vue"), ("@angular/core", "angular"), ("express", "express"),
   ("mongoose", "mongoose"), ("jest", "jest")]

/-- Endings of the files in which patterns are looked for. -/
def scannedEndings : List String :=
  [".py", ".js", ".ts", ".jsx", ".tsx", ".vue", ".java", ".go", ".rs", ".cpp", ".c", ".h", ".php",
   ".rb", ".cs", ".swift", ".kt", ".scala", ".clj", ".hs", ".ml", ".fs", ".dart"]

end SourceAudit.Framework
