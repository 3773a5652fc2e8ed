/-
The program: its commands, what their options have to be and what they do.

The values of options are looked at in the order in which the options were given,
then the arguments; only then words that are too many are noticed.
-/
import SourceAudit.Command.Help
import SourceAudit.Command.Scan

namespace SourceAudit.Command

open Script

-- ============================================================ commands

def scanCommand (program : String) : Command where
  call := program ++ " scan"
  tail := " TARGET_PATH"
  summary := "Scan a codebase for security vulnerabilities and quality issues."
  own :=
    [⟨"--config", some 'c', .existing, false, "Configuration file path"⟩,
     ⟨"--report-format", some 'f', .choice ["console", "json", "html"], false, "Report output format"⟩,
     ⟨"--output", some 'o', .path, false, "Output file path"⟩,
     ⟨"--severity", some 's', .choice ["low", "medium", "high", "critical"], false,
       "Minimum severity level to report"⟩,
     ⟨"--rules", some 'r', .text, true, "Specific rules to run"⟩,
     ⟨"--exclude", some 'e', .text, true, "Patterns to exclude from scanning"⟩,
     ⟨"--verbose", some 'v', .flag, false, "Verbose output"⟩]

def listCommand (program : String) : Command :=
  ⟨program ++ " list-rules", "", "List all available audit rules.", []⟩

def serveCommand (program : String) : Command where
  call := program ++ " serve"
  tail := ""
  summary := "Start the VibeAuditor web server (PWA mode)."
  own :=
    [⟨"--host", none, .text, false, "Host to bind the server to"⟩,
     ⟨"--port", none, .whole, false, "Port to bind the server to"⟩,
     ⟨"--reload", none, .flag, false, "Enable auto-reload for development"⟩]

def group (program : String) : Command :=
  ⟨program, " COMMAND [ARGS]...", "VibeCodeAuditor - Comprehensive code auditing for AI developers.",
   [⟨"--version", none, .flag, false, "Show the version and exit."⟩]⟩

def groupHelp (program : String) : String :=
  let commands := [("list-rules", listCommand program), ("scan", scanCommand program),
    ("serve", serveCommand program)]
  (group program).help ++ "\nCommands:\n" ++
    twoColumns (commands.map fun (name, c) => (name, shortened 62 c.summary))

-- ============================================================= misuse

/-- Ends with a complaint about the use of a command. -/
def refuse {α : Type} (c : Command) (why : String) : Script α := do
  write (c.complaint why)
  exit 2

def readWords (c : Command) (mixed : Bool) (args : List String) : Script Words :=
  match read c.options mixed .none args with
  | .ok w => pure w
  | .error m =>
    if m.showsUsage then refuse c m.message
    else do
      write ("Error: " ++ m.message ++ "\n")
      exit 2

/-- Whether there is something at a path; a path that ends with a slash has to be a
folder. -/
def isPlace (tree : FileTree) (path : String) : Bool :=
  !path.isEmpty && if Text.endsWith "/" path then tree.isFolder path else tree.exists? path

/-- What is wrong with a value of an option, if anything. -/
def objection? (tree : FileTree) (kind : Kind) (value : String) : Option String :=
  match kind with
  | .existing =>
    if isPlace tree value then none else some ("Path " ++ Text.quoted value ++ " does not exist.")
  | .choice words =>
    if words.contains value then none
    else some (Text.quoted value ++ " is not one of " ++ ", ".intercalate (words.map Text.quoted) ++ ".")
  | .whole =>
    if (Text.whole value).isOk then none
    else some (Text.quoted value ++ " is not a valid integer.")
  | _ => none

def checkValue (c : Command) (cited : String) (kind : Kind) (value : String) : Script Unit := do
  if let some why := objection? (← get).tree kind value then
    refuse c ("Invalid value for " ++ cited ++ ": " ++ why)

/-- Checks the options that were given. The one that shows help comes first. -/
def checkOptions (c : Command) (w : Words) : Script Unit := do
  if w.has "--help" then
    write c.help
    exit 0
  for o in w.inOrder do
    let values := if o.many then w.values o.name else (w.value? o.name).toList
    values.forM (checkValue c o.cited o.kind)

/-- Refuses words that are too many. -/
def checkRest (c : Command) (rest : List String) : Script Unit := do
  if !rest.isEmpty then
    refuse c ("Got unexpected extra argument" ++ (if rest.length == 1 then "" else "s") ++ " (" ++
      " ".intercalate rest ++ ")")

-- ============================================================ running

def runScan (program : String) (args : List String) : Script Unit := do
  let c := scanCommand program
  let w ← readWords c true args
  checkOptions c w
  match w.loose.reverse with
  | [] => refuse c "Missing argument 'TARGET_PATH'."
  | target :: rest =>
    checkValue c "'TARGET_PATH'" .existing target
    checkRest c rest
    scan
      { target := target
        settings := w.value? "--config"
        format := (w.value? "--report-format").getD "console"
        output := w.value? "--output"
        severity := (w.value? "--severity").getD "medium"
        rules := w.values "--rules"
        exclude := w.values "--exclude"
        verbose := w.has "--verbose" }

/-- Lists the rules. A table holds texts alone, and a severity is none. -/
def runList (program : String) (args : List String) : Script Unit := do
  let c := listCommand program
  let w ← readWords c true args
  checkOptions c w
  checkRest c w.loose.reverse
  throw (.notShowable "Severity")

def serveWeb (host : String) (port : Int) (reload : Bool) : Script Unit :=
  rescue (do
    require ["uvicorn", "fastapi"]
    let place := "http://" ++ host ++ ":" ++ toString port
    displayLine "[bold green]Starting VibeAuditor web server...[/bold green]"
    displayLine ("[blue]Server will be available at: " ++ place ++ "[/blue]")
    displayLine ("[blue]API documentation: " ++ place ++ "/api/docs[/blue]")
    serve "vibeauditor.api.main:app"
      [("host", .text host), ("port", .int port), ("reload", .bool reload),
       ("log_level", .text "info")]) fun f => do
    match f with
    | .notInstalled _ =>
      displayLine "[bold red]Error: FastAPI and uvicorn are required for web mode[/bold red]"
      displayLine "Install with: pip install fastapi uvicorn[standard]"
    | f => displayLine ("[bold red]Failed to start server: " ++ f.message ++ "[/bold red]")
    exit 1

def runServe (program : String) (args : List String) : Script Unit := do
  let c := serveCommand program
  let w ← readWords c true args
  checkOptions c w
  checkRest c w.loose.reverse
  serveWeb ((w.value? "--host").getD "127.0.0.1")
    (((w.value? "--port").bind fun s => (Text.whole s).toOption).getD 8000) (w.has "--reload")

/-- Reads the words before a command: the words from the command on. The options of
the program end it. -/
def readGroup (program : String) (args : List String) : Script (List String) := do
  if args.isEmpty then
    write (groupHelp program)
    exit 0
  let w ← readWords (group program) false args
  for o in w.inOrder do
    if o.name == "--version" then
      throw (.outside "'vibeauditor' is not installed. Try passing 'package_name' instead.")
    write (groupHelp program)
    exit 0
  return w.loose.reverse

/-- Whether a word looks like an option: it starts with neither a letter nor a
digit. -/
def isOdd (word : String) : Bool :=
  match word.toList with
  | [] => false
  | c :: _ => !Text.isAlnum c

def run (program : String) (args : List String) : Script Unit := do
  match ← readGroup program args with
  | [] => refuse (group program) "Missing command."
  | "scan" :: rest => runScan program rest
  | "list-rules" :: rest => runList program rest
  | "serve" :: rest => runServe program rest
  | name :: rest =>
    if isOdd name then
      let _ ← readGroup program rest
    refuse (group program) ("No such command " ++ Text.quoted name ++ ".")

end SourceAudit.Command
