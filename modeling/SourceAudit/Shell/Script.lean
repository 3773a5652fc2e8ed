/-
The steps of a command line program.

A program reads what the outside does, changes the shell and may fail; what it has
done stays done when it fails. Two kinds of rescue are told apart: one that lets
the program end when it is meant to, and one that does not.
-/
import SourceAudit.Shell.Basic
import SourceAudit.Store.Access

namespace SourceAudit

/-- A program, or a part of one. -/
abbrev Script (α : Type) := ReaderT Outside (ExceptT Fault (StateM Shell)) α

namespace Script

def ofOutcome {α : Type} (r : Outcome α) : Script α :=
  match r with
  | .ok a => pure a
  | .error f => throw f

def runIn {α : Type} (p : Script α) (o : Outside) (s : Shell) : Outcome α × Shell :=
  (p.run o).run.run s

/-- A program with a rescue from any failure but an end that is meant. -/
def rescue {α : Type} (p : Script α) (handler : Fault → Script α) : Script α :=
  tryCatch p fun f => if f.isEnd then throw f else handler f

/-- A program whose failures do not matter, an end that is meant included. -/
def regardless (p : Script Unit) : Script Unit :=
  tryCatch p fun _ => pure ()

/-- A program after which something is done in any case. -/
def andFinally {α : Type} (p : Script α) (last : Script Unit) : Script α := do
  let a ← tryCatch p fun f => do
    last
    throw f
  last
  return a

def exit {α : Type} (code : Int) : Script α :=
  throw (.exit code)

-- ============================================================= talking

def say (line : String) : Script Unit :=
  modify fun s => { s with said := .text (line ++ "\n") :: s.said }

def sayAll (lines : List String) : Script Unit :=
  lines.forM say

def write (text : String) : Script Unit :=
  modify fun s => { s with said := .text text :: s.said }

/-- Shows something on the console, which may refuse it. -/
def display (d : Report.Display) : Script Unit := do
  if let some f := (← read).refusal? d then throw f
  modify fun s => { s with said := .shown d :: s.said }

def displayLine (line : String) : Script Unit :=
  display (.line line)

def log (level message : String) : Script Unit :=
  modify fun s => { s with log := (level, message) :: s.log }

def info (message : String) : Script Unit := log "INFO" message

def warn (message : String) : Script Unit := log "WARNING" message

def logError (message : String) : Script Unit := log "ERROR" message

-- ============================================================= outside

def note (e : Event) : Script Unit :=
  modify fun s => { s with events := e :: s.events }

/-- Makes sure that parts are installed: the first that is not is reported. -/
def require (parts : List String) : Script Unit := do
  let missing := (← read).missing
  match parts.find? fun p => missing.contains p with
  | some p => throw (.notInstalled p)
  | none => return ()

/-- What a command line does, if anything is known of it. -/
def commandRun? (line : String) : Script (Option ToolRun) := do
  return ((← read).commands.find? fun c => c.1.toList.isPrefixOf line.toList).map Prod.snd

/-- Runs a command: its code, what it wrote and its complaints. -/
def run (command : List String) : Script (Int × String × String) := do
  note (.ran command)
  match ← commandRun? (" ".intercalate command) with
  | some (.ended code out err) => return (code, out, err)
  | some (.failed reason) => throw (.system reason)
  | none => throw (.noFile (command.headD ""))

def runOrFail (command : List String) : Script Unit := do
  let (code, _) ← run command
  if code != 0 then
    throw (.commandFailed ("'" ++ (Value.texts command).shown ++ "'") code)

/-- Runs a command line: its code, what it wrote and its complaints. -/
def runLine (line : String) : Script (Int × String × String) := do
  note (.ranLine line)
  match ← commandRun? line with
  | some (.ended code out err) => return (code, out, err)
  | some (.failed reason) => throw (.system reason)
  | none => return (127, "", "")

/-- Launches a process: its number and what it writes. -/
def launch (command : List String) : Script (Int × List String) := do
  note (.launched command)
  match (← read).launch with
  | .starts pid lines => return (pid, lines)
  | .fails reason => throw (.system reason)

/-- Waits for a process; the first wait may be interrupted, or a signal may come. -/
def waitOr (onSignal : Script Unit) : Script Unit := do
  note .waited
  if (← get).hasWaited then return ()
  modify fun s => { s with hasWaited := true }
  if (← read).interrupts then throw .interrupted
  if (← read).signals then onSignal

def wait : Script Unit := waitOr (pure ())

def kill (pid : Int) : Script Unit := do
  note (.killed pid)
  if (← read).lasting.contains pid then throw (.system "")

/-- Sleeps; the first sleep may be interrupted. -/
def sleep (seconds : Nat) : Script Unit := do
  note (.slept seconds)
  let first := !(← get).hasSlept
  modify fun s => { s with hasSlept := true }
  if first && (← read).interruptsSleep then throw .interrupted

def ask : Script Unit := do
  note .asked
  if (← read).inputEnds then throw .endOfInput

/-- Makes sure that requests can be made. -/
def requireWeb : Script Unit := do
  if (← read).web.isNone then throw (.notInstalled "requests")

/-- Makes a request: status, value and text of the answer. -/
def request (method url : String) (data : Value) (files : List SentFile) (seconds : Nat) :
    Script (Int × Value × String) := do
  note (.requested method url data files seconds)
  let reply := (← get).web.headD .plain
  modify fun s => { s with web := s.web.drop 1 }
  match reply with
  | .answers status json text => return (status, json, text)
  | .fails reason => throw (.system reason)

def serve (app : String) (settings : List (String × Value)) : Script Unit := do
  note (.served app settings)
  if (← read).interrupts then throw .interrupted
  if let some reason := (← read).serveFailure then throw (.outside reason)

-- =============================================================== files

def isThere (path : String) : Script Bool := do
  return (← get).tree.exists? path

def readText (path : String) : Script String := do
  ofOutcome ((← get).tree.readText path)

def writeText (path text : String) : Script Unit := do
  let tree ← ofOutcome ((← get).tree.write path (Text.encode text))
  modify fun s => { s with tree := tree }

def copyFile (source target : String) : Script Unit := do
  let tree := (← get).tree
  let tree ← ofOutcome (do tree.write target (← tree.read source))
  modify fun s => { s with tree := tree }

def makeFolder (path : String) : Script Unit := do
  let (tree, made) := (← get).tree.makeFolder path
  modify fun s => { s with tree := tree }
  ofOutcome made

def removeFile (path : String) : Script Unit := do
  if (← get).tree.isFolder path then throw (.isFolder path)
  modify fun s => { s with tree := s.tree.remove path }

-- =============================================================== store

/-- Connects to the store that the environment names. -/
def connect : Script Unit := do
  require ["supabase"]
  let c ← ofOutcome (Store.client (← read).environment none)
  note (.connected c.url c.key)

def rows (q : Store.Query) : Script Value := do
  let (r, ledger) := (Store.Action.rows q).run.run (← get).ledger
  modify fun s => { s with ledger := ledger }
  ofOutcome r

end Script

end SourceAudit
