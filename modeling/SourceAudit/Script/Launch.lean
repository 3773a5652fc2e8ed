/-
Launching servers: the server for development, the server as it is installed and
two servers that answer with made-up results.
-/
import SourceAudit.Settings.Server
import SourceAudit.Shell.Script

namespace SourceAudit.Launch

open Script

def localhost (more : List (String × Value)) : List (String × Value) :=
  [("host", .text "127.0.0.1"), ("port", .int 8000)] ++ more ++ [("log_level", .text "info")]

/-- Serves an application, with a word to those who stop it. -/
def serveDevelopment : Script Unit :=
  tryCatch (do
    sayAll ["🌐 Starting API server on http://localhost:8000",
      "📚 API docs available at http://localhost:8000/api/docs",
      "🔧 Press Ctrl+C to stop the server", ""]
    require ["uvicorn", "fastapi"]
    serve "app" (localhost [("reload", .bool true)])) fun f =>
    match f with
    | .interrupted => say "\n👋 Server stopped"
    | .exit code => exit code
    | f => do
      say ("❌ Error starting server: " ++ f.message)
      exit 1

/-- Launches the server for development; what it needs is installed first. -/
def development : Script Unit := do
  sayAll ["🚀 Starting VibeCodeAuditor PWA Development Server", Text.repeated 50 "="]
  if !(← isThere "vibeauditor") then
    say "❌ Error: Please run this script from the project root directory"
    exit 1
  tryCatch (require ["fastapi", "uvicorn"]) fun _ => do
    say "📦 Installing required dependencies..."
    runOrFail ["python", "-m", "pip", "install", "-r", "requirements.txt"]
  serveDevelopment

/-- Loads the server: its parts, its log and its settings. -/
def loadServer : Script Unit := do
  require ["dotenv", "fastapi", "pydantic", "uvicorn", "supabase"]
  makeFolder "logs"
  if !(← isThere "logs/vibeauditor.log") then writeText "logs/vibeauditor.log" ""
  let _ ← ofOutcome (ServerSettings.ofEnvironment (← read).environment)

def installed : Script Unit := do
  sayAll ["🚀 VibeCodeAuditor Server Startup", Text.repeated 40 "="]
  rescue (do
    say "🧪 Testing imports..."
    loadServer
    sayAll ["✅ All imports successful", "🌐 Starting server on http://localhost:8000",
      "📚 API docs will be available at http://localhost:8000/api/docs",
      "🔧 Press Ctrl+C to stop", ""]
    serve "app" (localhost [("reload", .bool false)])) fun f => do
    match f with
    | .notInstalled _ =>
      sayAll ["❌ Import error: " ++ f.message,
        "💡 Make sure you've installed dependencies: pip install -r requirements.txt"]
    | _ => say ("❌ Server startup failed: " ++ f.message)
    exit 1

/-- Launches the made-up server for uploads of one file. -/
def standIn : Script Unit := do
  require ["fastapi", "uvicorn"]
  sayAll ["🚀 Starting Mock VibeCodeAuditor API Server",
    "📍 Server will be available at: http://localhost:8000",
    "📚 Health check: http://localhost:8000/health", "🔧 Press Ctrl+C to stop", ""]
  serve "app" (localhost [])

/-- Launches the made-up server for uploads of many files. -/
def standInForMany : Script Unit := do
  require ["fastapi", "uvicorn"]
  sayAll ["🚀 Starting Mock VibeCodeAuditor Backend",
    "📍 Server will run on: http://localhost:8000",
    "🔗 Frontend should connect automatically",
    "📚 API docs available at: http://localhost:8000/docs", ""]
  serve "app" (localhost [])

end SourceAudit.Launch
