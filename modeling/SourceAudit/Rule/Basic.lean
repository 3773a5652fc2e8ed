/-
Audit rules. A rule looks at one file and makes remarks about its lines; a remark
with the rule's own data is a finding.

Most rules look at each line on its own (`Inspection.perLine`): their remarks on
a file are those on its lines, in order. The others see the whole file.
-/
import SourceAudit.Finding.Basic
import SourceAudit.Path
import SourceAudit.Pattern.Reader

namespace SourceAudit

/-- How a rule breaks the text of a file into lines. -/
inductive Reading where
  /-- At line feeds, which stay. -/
  | fileLines
  /-- At every line-breaking character, which goes. -/
  | textLines
  deriving DecidableEq, Repr

def Reading.lines : Reading → String → List String
  | .fileLines => Text.readLines
  | .textLines => Text.splitLines

/-- The bytes of a file that a rule looks at. -/
structure Source where
  bytes : List UInt8

/-- The text of a file, broken bytes left out. -/
def Source.text (s : Source) : String :=
  Text.decodeLenient s.bytes

/-- What a rule has to say about a line. -/
structure Note where
  message : String
  remediation : String
  metadata : List (String × Value) := []

/-- A note with the place it is about and the text shown for it. -/
structure Remark where
  line : Nat
  snippet : String
  note : Note

/-- How a rule looks at a file. -/
inductive Inspection where
  /-- Each line on its own. -/
  | perLine (reading : Reading) (look : String → List Note)
  | whole (look : Source → List Remark)

def lineRemarks (look : String → List Note) (number : Nat) (line : String) : List Remark :=
  (look line).map fun note => ⟨number, Text.trim line, note⟩

/-- The remarks on lines that are numbered from `number` on. -/
def remarksFrom (look : String → List Note) : Nat → List String → List Remark
  | _, [] => []
  | number, line :: rest => lineRemarks look number line ++ remarksFrom look (number + 1) rest

def Inspection.remarks (source : Source) : Inspection → List Remark
  | .perLine reading look => remarksFrom look 1 (reading.lines source.text)
  | .whole look => look source

/-- An audit rule. -/
structure Rule where
  id : String
  description : String
  severity : Severity
  category : String
  /-- Endings of the files it applies to; none means every file. -/
  languages : List String := []
  framework : Option String := none
  confidence : Float
  inspection : Inspection

namespace Rule

/-- Whether a rule applies to a file, judged by the ending of its path. -/
def appliesTo (rule : Rule) (path : String) : Bool :=
  rule.languages.isEmpty || rule.languages.contains (Text.lower (Path.ending path))

/-- The entries of a finding that a rule makes by hand. -/
def findingForm : Form where
  title := "BaseRule.create_issue"
  required := ["file_path", "message"]
  optional :=
    ["line_number", "column_number", "code_snippet", "remediation", "confidence", "metadata"]

/-- What a rule hands over for a finding made of named entries: its own data and all that
the entries can tell, a column among it. -/
def handedOver (rule : Rule) (entries : List (String × Value)) : List (String × Value) :=
  let given (name : String) (usual : Value) : Value := (Value.lookup name entries).getD usual
  let metadata := given "metadata" .null
  [("rule_id", .text rule.id), ("severity", .text rule.severity.name),
   ("message", given "message" .null), ("file_path", given "file_path" .null),
   ("line_number", given "line_number" .null), ("column_number", given "column_number" .null),
   ("code_snippet", given "code_snippet" .null), ("remediation", given "remediation" .null),
   ("category", .text rule.category), ("confidence", given "confidence" (.real 1)),
   ("metadata", if metadata.isTruthy then metadata else .record [])]

/-- A finding of a rule made of named entries. With `columns` false a finding has no room
for the column that is handed over. -/
def makeFinding (columns : Bool) (rule : Rule) (entries : List (String × Value)) :
    Outcome Finding := do
  findingForm.check entries
  Finding.ofFields columns (rule.handedOver entries)

/-- The entries of a finding that a remark makes. -/
def entriesOf (rule : Rule) (path : String) (remark : Remark) : List (String × Value) :=
  [("file_path", .text path), ("message", .text remark.note.message),
   ("line_number", Value.ofNat remark.line), ("code_snippet", .text remark.snippet),
   ("remediation", .text remark.note.remediation), ("confidence", .real rule.confidence),
   ("metadata", .record remark.note.metadata)]

/-- Findings made of remarks one after another. The first that cannot be made ends it:
those made before stay, and the reason is told. -/
def madeOf (make : Remark → Outcome Finding) : List Remark → List Finding × Option Fault
  | [] => ([], none)
  | remark :: rest =>
    match make remark with
    | .ok finding =>
      let (later, fault) := madeOf make rest
      (finding :: later, fault)
    | .error fault => ([], some fault)

/-- What a rule makes of its remarks on a file, and why it could not make all of it. -/
def attempt (columns : Bool) (rule : Rule) (path : String) (source : Source) :
    List Finding × Option Fault :=
  madeOf (fun remark => rule.makeFinding columns (rule.entriesOf path remark))
    (rule.inspection.remarks source)

/-- The findings of a rule about a file: those that could be made. A file that is not
there has none. -/
def check (columns : Bool) (rule : Rule) (path : String) (source : Option Source) :
    List Finding :=
  match source with
  | some s => (rule.attempt columns path s).1
  | none => []

end Rule

-- ============================================================== checks

/-- A pattern with what to say about a line in which it occurs. -/
structure LineCheck where
  pattern : Pattern
  note : Note

/-- The notes on a line: one for each check whose pattern occurs in it. -/
def notesOf (checks : List LineCheck) (line : String) : List Note :=
  (checks.filter fun c => c.pattern.occursIn line).map LineCheck.note

end SourceAudit
