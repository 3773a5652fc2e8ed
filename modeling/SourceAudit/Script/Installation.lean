/-
A quick installation: the interpreter is checked, tools are installed, folders and
settings are prepared, and sample files are written.
-/
import SourceAudit.Script.Sample
import SourceAudit.Shell.Script

namespace SourceAudit.Installation

open Script

/-- Runs a command line and says how it went: whether it succeeded. -/
def runCommand (line description : String) : Script Bool := do
  say ("🔧 " ++ description)
  let (code, out, err) ← runLine line
  if code == 0 then
    say "   ✅ Success"
    return true
  let failure := Fault.commandFailed ("'" ++ line ++ "'") code
  sayAll ["   ⚠️  Warning: " ++ failure.message, "   Output: " ++ out, "   Error: " ++ err]
  return false

def checkVersion : Script Bool := do
  let (major, minor, micro) := (← read).version
  if major < 3 || (major == 3 && minor < 8) then
    say "❌ Python 3.8+ is required"
    return false
  say ("✅ Python " ++ toString major ++ "." ++ toString minor ++ "." ++ toString micro)
  return true

/-- The parts of the server, each with the version it needs. -/
def parts : List (String × String) :=
  [("fastapi", "0.104.1"), ("uvicorn[standard]", "0.24.0"), ("supabase", "2.0.2"),
   ("python-multipart", "0.0.6"), ("python-jose[cryptography]", "3.3.0"),
   ("passlib[bcrypt]", "1.7.4"), ("aiofiles", "23.2.1"), ("python-dotenv", "1.0.0"),
   ("pydantic", "2.5.0")]

def install (command what title : String) : Script Unit := do
  let _ ← runCommand (command ++ " " ++ what) ("Installing " ++ title)

def installParts : Script Unit := do
  say "📦 Installing Python dependencies..."
  for (part, version) in parts do
    install "pip install" (part ++ "==" ++ version) part
  for tool in ["bandit", "safety"] do
    install "pip install" tool tool

/-- Installs the scanners of scripts, if there is something to install them with. -/
def installScriptTools : Script Unit := do
  if (← read).programs.contains "npm" then
    say "📦 Installing Node.js security tools..."
    for tool in ["eslint", "eslint-plugin-security"] do
      install "npm install -g" tool tool
  else
    say "⚠️  npm not found, skipping JavaScript tools"

def makeFolders : Script Unit := do
  say "📁 Creating directories..."
  for folder in ["logs", "uploads", "temp", "backups"] do
    makeFolder folder
    say ("   ✅ Created " ++ folder ++ "/")

def makeSettings : Script Unit := do
  say "⚙️  Setting up environment..."
  if ← isThere ".env" then
    say "   ✅ .env already exists"
  else if ← isThere ".env.template" then
    copyFile ".env.template" ".env"
    sayAll ["   ✅ Created .env from template",
      "   ⚠️  Please update .env with your Supabase credentials!"]
  else
    say "   ❌ No .env.template found"

def writeSamples : Script Unit := do
  say "📝 Creating test files..."
  for (path, text) in [("test_sample.py", Sample.shortServerScript),
      ("test_sample.js", Sample.shortPageScript)] do
    writeText path text
    say ("   ✅ Created " ++ path)

def program : Script Unit := do
  say "🚀 VibeCodeAuditor Quick Installation\n"
  if !(← checkVersion) then exit 1
  installParts
  installScriptTools
  makeFolders
  makeSettings
  writeSamples
  let rule := Text.repeated 50 "="
  sayAll ["\n" ++ rule, "✅ Installation Complete!", rule, "\nNext steps:",
    "1. Update .env with your Supabase credentials",
    "2. Test the setup: python3 test_production_setup.py",
    "3. Start the server: python3 run_production.py",
    "4. Test with sample files: test_sample.py, test_sample.js",
    "\nAPI will be available at: http://localhost:8000",
    "Health check: curl http://localhost:8000/health"]

end SourceAudit.Installation
