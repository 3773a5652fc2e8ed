/-
Rules on the quality of code: long functions, notes left to do, code that cannot
be reached.
-/
import SourceAudit.Rule.Basic
import SourceAudit.Text.Search

namespace SourceAudit.Rule

-- ====================================================== long functions

/-- The starts of functions, the name being the first group. -/
def functionPatterns : List Pattern :=
  [Pattern.of r"^\s*def\s+(\w+)\s*\(",
   Pattern.of r"^\s*function\s+(\w+)\s*\(",
   Pattern.of r"^\s*(\w+)\s*\([^)]*\)\s*{"]

def functionName? (line : String) : Option String :=
  functionPatterns.findSome? fun p => (p.search line).map fun found => (found.group? 1).getD ""

/-- A function whose end has not been met: its name, the line it starts on, the
indentation of that line and its text. -/
structure OpenFunction where
  name : String
  start : Nat
  indent : Nat
  text : String

def indentOf (line : String) : Nat :=
  (line.toList.takeWhile Text.isBlank).length

/-- The remark on a function that ends on line `last`, if it is longer than allowed. -/
def OpenFunction.remark? (limit : Int) (f : OpenFunction) (last : Nat) : Option Remark :=
  let length : Int := (last : Int) - f.start + 1
  if limit < length then
    some {
      line := f.start
      snippet := Text.trim f.text
      note :=
        { message := "Function '" ++ f.name ++ "' is " ++ toString length ++ " lines long (max: " ++
            toString limit ++ ")"
          remediation :=
            "Consider breaking this function into smaller, more focused functions"
          metadata := [("function_name", .text f.name), ("length", .int length)] } }
  else none

/-- The remarks on the functions of the lines numbered from `number` on, one
function perhaps still open. A function ends before the next one starts, before
a line that is indented no more than its first one and is not the line right
after it, or with the file. -/
def longFunctionsFrom (limit : Int) (openOne : Option OpenFunction) :
    Nat → List String → List Remark
  | number, [] => (openOne.bind fun f => f.remark? limit (number - 1)).toList
  | number, line :: rest =>
    let (closed, current) :=
      match functionName? line with
      | some name =>
        ((openOne.bind fun f => f.remark? limit (number - 1)).toList,
         some (OpenFunction.mk name number (indentOf line) line))
      | none => ([], openOne)
    let endsHere (f : OpenFunction) : Bool :=
      !(Text.trim line).isEmpty && indentOf line ≤ f.indent && f.start + 1 < number
    match current with
    | some f =>
      if endsHere f then
        closed ++ (f.remark? limit (number - 1)).toList ++
          longFunctionsFrom limit none (number + 1) rest
      else closed ++ longFunctionsFrom limit (some f) (number + 1) rest
    | none => closed ++ longFunctionsFrom limit none (number + 1) rest

def longFunction (limit : Int) : Rule where
  id := "quality.long_function"
  description := "Detects functions longer than " ++ toString limit ++ " lines"
  severity := .medium
  category := "quality"
  languages := [".py", ".js", ".ts", ".java"]
  confidence := 0.9
  inspection := .whole fun source =>
    longFunctionsFrom limit none 1 (Text.readLines source.text)

-- ============================================================ comments

/-- Comments that leave something to do. -/
def todoPatterns : List Pattern :=
  [Pattern.of r"(?i)#.*\b(TODO|FIXME|HACK|BUG)\b",
   Pattern.of r"(?i)//.*\b(TODO|FIXME|HACK|BUG)\b",
   Pattern.of r"(?i)/\*.*\b(TODO|FIXME|HACK|BUG)\b.*\*/"]

def todoComments : Rule where
  id := "quality.todo_comments"
  description := "Detects TODO, FIXME, and HACK comments"
  severity := .low
  category := "quality"
  confidence := 1
  inspection := .perLine .fileLines <| notesOf <| todoPatterns.map fun pattern =>
    { pattern
      note :=
        { message := "TODO/FIXME comment found"
          remediation := "Address the TODO/FIXME or create a proper issue tracker item" } }

-- =========================================================== dead code

/-- A sign of code that cannot be reached: the pattern of a line as it is written, and
what to say. -/
structure DeadCodeCheck where
  written : String
  message : String

def DeadCodeCheck.pattern (check : DeadCodeCheck) : Pattern :=
  Pattern.of check.written

/-- A return statement with more code after its line. -/
def afterReturn : DeadCodeCheck where
  written := r"^\s*return\s+.*\n.*\S"
  message := "Code after return statement"

def deadCodeChecks : List DeadCodeCheck :=
  [afterReturn,
   { written := r"^\s*if\s+False\s*:", message := "Code in 'if False' block" },
   { written := r"^\s*if\s+0\s*:", message := "Code in 'if 0' block" }]

/-- The remark on the line after one with a sign: the next line, unless it is blank or a
comment. Only signs that tell of return statements lead to one. -/
def DeadCodeCheck.remark? (check : DeadCodeCheck) (number : Nat) (line : String)
    (next : Option String) : Option Remark :=
  if check.pattern.occursIn line && Text.contains "return" check.written then
    next.bind fun following =>
      let text := Text.trim following
      if text.isEmpty || Text.startsWith "#" text || Text.startsWith "//" text then none
      else
        some {
          line := number + 1
          snippet := text
          note :=
            { message := check.message
              remediation := "Remove unreachable code or restructure logic" } }
  else none

/-- The remarks on code that cannot be reached in lines numbered from `number` on. -/
def deadCodeFrom : Nat → List String → List Remark
  | _, [] => []
  | number, line :: rest =>
    deadCodeChecks.filterMap (fun check => check.remark? number line rest.head?) ++
      deadCodeFrom (number + 1) rest

def deadCode : Rule where
  id := "quality.dead_code"
  description := "Detects potentially unreachable or dead code"
  severity := .low
  category := "quality"
  languages := [".py", ".js", ".ts"]
  confidence := 0.8
  inspection := .whole fun source => deadCodeFrom 1 (Text.readLines source.text)

def qualityRules : List Rule :=
  [longFunction 50, todoComments, deadCode]

end SourceAudit.Rule
