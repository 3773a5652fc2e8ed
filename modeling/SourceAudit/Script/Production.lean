/-
Running the server in production: what it needs is looked for, tools are installed,
folders and settings are prepared, and the server is run until it ends.
-/
import SourceAudit.Script.Sample
import SourceAudit.Shell.Script

namespace SourceAudit.Production

open Script

def needed : List (String × String) :=
  [("python3", "Python 3 is required"), ("node", "Node.js is required for ESLint"),
   ("npm", "npm is required for JavaScript tools")]

/-- Whether all programs that are needed can be found. -/
def checkDependencies : Script Bool := do
  let mut lacking : List String := []
  for (program, why) in needed do
    let (code, _) ← run ["which", program]
    if code != 0 then lacking := lacking ++ [why]
  if lacking.isEmpty then return true
  logError "Missing dependencies:"
  for why in lacking do
    logError ("  - " ++ why)
  return false

def installTool (command : List String) (tool : String) : Script Unit := do
  info ("Installing " ++ tool ++ "...")
  let (code, _, err) ← run (command ++ [tool])
  if code != 0 then warn ("Failed to install " ++ tool ++ ": " ++ err)

def installTools : Script Unit := do
  info "Installing security scanning tools..."
  for tool in ["bandit[toml]", "safety", "semgrep"] do
    installTool ["python", "-m", "pip", "install"] tool
  for tool in ["eslint", "eslint-plugin-security", "@typescript-eslint/parser",
      "@typescript-eslint/eslint-plugin"] do
    installTool ["npm", "install", "-g"] tool

def writeTemplate : Script Unit := do
  writeText ".env.template" Sample.environment
  info "Created .env.template - please copy to .env and update with your values"

def prepare : Script Unit := do
  info "Setting up production environment..."
  for folder in ["logs", "uploads", "temp", "backups"] do
    makeFolder folder
    info ("Created directory: " ++ folder)
  if !(← isThere ".env") then
    warn "No .env file found. Creating template..."
    writeTemplate

def serverCommand (host : String) (port workers : Int) : List String :=
  ["python", "-m", "uvicorn", "vibeauditor.main:app", "--host", host, "--port", toString port,
   "--workers", toString workers, "--log-level", "info"]

/-- What is done when a signal comes: the server is ended, and the program too. -/
def shutDown : Script Unit := do
  info "Shutting down server..."
  note .terminated
  wait
  exit 0

/-- Runs a command until it ends: whether it could be run. -/
def attend (command : List String) : Script Bool :=
  tryCatch (do
    let _ ← launch command
    note (.heeds "SIGINT")
    note (.heeds "SIGTERM")
    waitOr shutDown
    return true) fun f =>
    match f with
    | .interrupted => do
      info "Server stopped by user"
      return true
    | .exit code => exit code
    | f => do
      logError ("Server error: " ++ f.message)
      return false

def startServer : Script Bool := do
  info "Starting VibeCodeAuditor production server..."
  if ← isThere ".env" then require ["dotenv"]
  let env := (← read).environment
  let host := env.text "HOST" "0.0.0.0"
  let port ← ofOutcome (env.whole "PORT" 8000)
  let workers ← ofOutcome (env.whole "WORKERS" 1)
  let command := serverCommand host port workers
  info ("Starting server: " ++ " ".intercalate command)
  info ("Server will be available at: http://" ++ host ++ ":" ++ toString port)
  attend command

def program : Script Unit := do
  info "🚀 VibeCodeAuditor Production Setup"
  if !(← checkDependencies) then
    logError "❌ Dependency check failed"
    exit 1
  installTools
  prepare
  let env := (← read).environment
  let lacking := ["SUPABASE_URL", "SUPABASE_ANON_KEY"].filter fun name =>
    (Store.setting? env name).isNone
  if !lacking.isEmpty then
    logError "❌ Missing required environment variables:"
    for name in lacking do
      logError ("  - " ++ name)
    logError "Please update your .env file with the required values"
    exit 1
  info "✅ All checks passed. Starting server..."
  if ← startServer then
    info "✅ Server started successfully"
  else
    logError "❌ Server failed to start"
    exit 1

end SourceAudit.Production
