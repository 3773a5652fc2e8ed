/-
The world a command line program runs in.

What the outside does is known beforehand: what each command gives, whether a
process can be launched, what the web answers, when the user interrupts. What the
program does to the outside is written down in order, beside the text it prints,
its log, the files it leaves and what it asks of the store.
-/
import SourceAudit.Moment
import SourceAudit.Report.Terminal
import SourceAudit.Scan.Tool
import SourceAudit.Settings.Environment
import SourceAudit.Store.Client

namespace SourceAudit

-- ============================================================= outside

/-- What launching a process does. -/
inductive Launch where
  | starts (pid : Int) (lines : List String)
  | fails (reason : String)

/-- What the web answers to a request. -/
inductive WebReply where
  | answers (status : Int) (json : Value) (text : String)
  | fails (reason : String)

namespace WebReply

/-- The answer when there is nothing special to say. -/
def plain : WebReply := .answers 200 (.record []) ""

end WebReply

/-- What the outside does. -/
structure Outside where
  /-- The folder the program runs in. -/
  folder : String
  now : Moment
  environment : Environment
  /-- The version of the interpreter: major, minor and micro. -/
  version : Nat × Nat × Nat
  /-- The parts that are not installed. -/
  missing : List String
  programs : List String
  /-- What commands do, by how their lines start; the first that fits counts. -/
  commands : List (String × ToolRun)
  launch : Launch
  /-- The processes that cannot be ended. -/
  lasting : List Int
  /-- Whether the user interrupts the first wait, or serving. -/
  interrupts : Bool
  /-- Whether the user interrupts the first sleep. -/
  interruptsSleep : Bool
  /-- Whether a signal comes in the first wait. -/
  signals : Bool
  inputEnds : Bool
  /-- The answers of the web in order, if requests can be made at all. -/
  web : Option (List WebReply)
  browserFailure : Option String
  serveFailure : Option String
  scanFailure : Option String
  /-- Why the console refuses to show something, if it does. -/
  refusal? : Report.Display → Option Fault
  /-- The tools of the scanners. -/
  box : Toolbox
  /-- Whether results can be gathered and findings have columns. -/
  full : Bool
  /-- The totals of an audit, where they can be counted. -/
  totals : Option Value
  /-- Whether an audit has critical findings, where that can be asked. -/
  critical : Option Value
  /-- Whether an audit has findings of high severity, where that can be asked. -/
  high : Option Value

-- ============================================================== events

/-- A file sent with a request: its field, name, content and type. -/
structure SentFile where
  field : String
  name : String
  bytes : List UInt8
  type : String

/-- Something a program does to the outside. -/
inductive Event where
  | ran (command : List String)
  | ranLine (line : String)
  | launched (command : List String)
  | waited
  | terminated
  | heeds (signal : String)
  | killed (pid : Int)
  | called (line : String)
  | slept (seconds : Nat)
  | asked
  | browsed (url : String)
  | requested (method url : String) (data : Value) (files : List SentFile) (seconds : Nat)
  | connected (url key : String)
  | served (app : String) (settings : List (String × Value))

-- =============================================================== shell

/-- Something a program says: text as it stands, or something shown on the console. -/
inductive Said where
  | text (s : String)
  | shown (d : Report.Display)

/-- What a program has done so far; the last comes first in each list. -/
structure Shell where
  tree : FileTree
  ledger : Store.Ledger
  said : List Said
  log : List (String × String)
  events : List Event
  /-- The answers of the web that are left. -/
  web : List WebReply
  hasWaited : Bool
  hasSlept : Bool

namespace Shell

/-- A shell in which nothing has been done yet. -/
def start (tree : FileTree) (replies : List Store.Reply) (web : List WebReply) : Shell :=
  ⟨tree, .ofReplies replies, [], [], [], web, false, false⟩

def output (s : Shell) : String :=
  String.join (s.said.reverse.map fun said => match said with
    | .text t => t
    | .shown _ => "")

/-- All that was said, as a terminal shows it. -/
def transcript (s : Shell) : String :=
  String.join (s.said.reverse.map fun said => match said with
    | .text t => t
    | .shown d => d.plain)

/-- What was shown on the console, in order. -/
def displays (s : Shell) : List Report.Display :=
  s.said.reverse.filterMap fun said => match said with
    | .text _ => none
    | .shown d => some d

end Shell

end SourceAudit
