/-
Restarting the server: what still runs is ended, a new server is launched and, in
some of the ways to do it, asked whether it is well.
-/
import SourceAudit.Shell.Script

namespace SourceAudit.Restart

open Script

def serverCommand : List String := ["python", "start_server.py"]

/-- The command that finds who listens on the server's port. -/
def portCommand : List String := ["lsof", "-ti:8000"]

/-- Ends the processes that a command lists, one to a line, and names those that
could be ended. -/
def endListed (command : List String) (named : String → String) : Script Bool := do
  let (_, out, _) ← run command
  let listed := Text.trim out
  if listed.isEmpty then return false
  for line in Text.splitOnChar '\n' listed do
    regardless do
      kill (← ofOutcome (Text.whole line))
      say (named line)
  return true

/-- Asks the server whether it is well: status and value of the answer. -/
def askHealth : Script (Int × Value) := do
  requireWeb
  let (status, json, _) ← request "get" "http://localhost:8000/health" .null [] 5
  return (status, json)

-- ==================================================== thorough restart

namespace Thorough

/-- Ends all that may be a server, found by its port and by its name. -/
def endServers : Script Unit :=
  rescue (do
    say "🔍 Looking for existing server processes..."
    let ways : List (List String × (String → String)) :=
      [(portCommand, fun pid => "✅ Killed process " ++ pid ++ " on port 8000"),
       (["pgrep", "-f", "start_server.py"], fun pid => "✅ Killed start_server.py process " ++ pid),
       (["pgrep", "-f", "uvicorn"], fun pid => "✅ Killed uvicorn process " ++ pid)]
    for (command, named) in ways do
      regardless do
        let _ ← endListed command named
    say "⏳ Waiting for processes to terminate..."
    sleep 3) fun f => say ("⚠️ Error killing processes: " ++ f.message)

/-- Whether the server answers that it is well. -/
def isHealthy : Script Bool :=
  rescue (do
    let (status, data) ← askHealth
    if status != 200 then
      say ("⚠️ Server responded with status: " ++ toString status)
      return false
    say "✅ Server is healthy and responding!"
    say ("   Status: " ++ (← ofOutcome (data.ask "status" .null)).shown)
    say ("   Environment: " ++ (← ofOutcome (data.ask "environment" .null)).shown)
    return true) fun f => do
    say ("⚠️ Could not test server health: " ++ f.message)
    return false

def startServer : Script Bool :=
  rescue (do
    say "🚀 Starting fresh server..."
    let (pid, _) ← launch serverCommand
    sayAll ["✅ Server started with PID: " ++ toString pid,
      "📍 Server should be available at: http://localhost:8000"]
    sleep 5
    isHealthy) fun f => do
    say ("❌ Failed to start server: " ++ f.message)
    return false

/-- Prints the end of the server's log, if there is one. -/
def showLog : Script Unit :=
  regardless do
    let lines := Text.readLines (← readText "logs/vibeauditor.log")
    say "\n📋 Recent log entries:"
    sayAll ((lines.drop (lines.length - 5)).map fun l => "   " ++ Text.trim l)

def program : Script Unit := do
  sayAll ["🔄 Restarting VibeCodeAuditor Server", Text.repeated 40 "="]
  endServers
  if ← startServer then
    sayAll ["\n🎉 Server restart successful!", "✅ Ready to test frontend integration",
      "💡 Try uploading a file in the web interface"]
  else
    sayAll ["\n❌ Server restart failed", "💡 Check logs/vibeauditor.log for details"]
    showLog

end Thorough

-- ==================================================== attended restart

namespace Attended

/-- Ends who listens on the server's port; whatever fails does not matter. -/
def endServers : Script Unit :=
  regardless do
    let _ ← endListed portCommand fun pid => "Killed process " ++ pid
    sleep 2

def startServer : Script (Option Int) :=
  rescue (do
    say "🚀 Starting VibeCodeAuditor server..."
    let (pid, _) ← launch serverCommand
    sayAll ["✅ Server started with PID: " ++ toString pid,
      "📍 Server should be available at: http://localhost:8000",
      "📚 Health check: http://localhost:8000/health"]
    return some pid) fun f => do
    say ("❌ Failed to start server: " ++ f.message)
    return none

def showHealth : Script Unit :=
  rescue (do
    let (status, data) ← askHealth
    if status == 200 then
      sayAll ["✅ Server is healthy!", "Response: " ++ data.shown]
    else
      say ("⚠️ Server responded with status: " ++ toString status)) fun f =>
    say ("⚠️ Could not test health endpoint: " ++ f.message)

/-- Stays with the server until it ends or is interrupted. -/
def attend : Script Unit :=
  tryCatch (do
    sleep 3
    showHealth
    sayAll ["\n🎉 Server restart complete!", "Press Ctrl+C to stop the server"]
    wait) fun f =>
    match f with
    | .interrupted => do
      say "\n🛑 Stopping server..."
      note .terminated
      wait
      say "✅ Server stopped"
    | f => throw f

def program : Script Unit := do
  sayAll ["🔄 Restarting VibeCodeAuditor Server", Text.repeated 40 "="]
  endServers
  match ← startServer with
  | some _ => attend
  | none => exit 1

end Attended

-- ======================================================= plain restart

namespace Plain

/-- Ends servers by name and launches a new one: whether it starts. -/
def program : Script Bool := do
  say "🔄 Restarting main server..."
  regardless do
    for name in ["start_server.py", "uvicorn", "minimal_test_server.py"] do
      note (.called ("pkill -f " ++ name))
    sleep 2
    say "✅ Killed existing processes"
  rescue (do
    say "🚀 Starting main server..."
    let (pid, _) ← launch serverCommand
    sayAll ["✅ Main server started with PID: " ++ toString pid,
      "📍 Server available at: http://localhost:8000",
      "⏳ Wait 5 seconds then test upload..."]
    return true) fun f => do
    say ("❌ Failed to start: " ++ f.message)
    return false

end Plain

-- ================================================================= log

/-- Prints the server's log line by line, until it ends or is interrupted. -/
def watchLog : Script Unit := do
  sayAll ["👀 Watching logs... Upload a file to see debug output", "Press Ctrl+C to stop",
    Text.repeated 50 "="]
  tryCatch (do
    let (_, lines) ← launch ["tail", "-f", "logs/vibeauditor.log"]
    sayAll (lines.map Text.trim)
    if (← read).interrupts then throw .interrupted) fun f =>
    match f with
    | .interrupted => do
      say "\\n👋 Stopped watching logs"
      note .terminated
    | .exit code => exit code
    | f => say ("❌ Error: " ++ f.message)

end SourceAudit.Restart
