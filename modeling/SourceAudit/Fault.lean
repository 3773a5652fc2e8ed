/-
Why an operation cannot give its answer. Each constructor is one cause;
`Fault.message` has the wording of all of them.
-/
import SourceAudit.Text.Numeral
import SourceAudit.Text.Quote
import SourceAudit.Value.Json.Reader

namespace SourceAudit

/-- A place inside a value: a field or a position in a list. -/
inductive Place where
  | field (name : String)
  | index (n : Nat)
  deriving DecidableEq, Repr

/-- Why an operation cannot give its answer. -/
inductive Fault where
  /-- A name that a table does not hold. -/
  | unknownKey (name : String)
  /-- A number that a table with names does not hold. -/
  | unknownNumber (n : Nat)
  /-- A value without the member asked of it. -/
  | noMember (kind member : String)
  /-- A module-level name that is not there. -/
  | noName (name : String)
  /-- A value that cannot be gone through item by item. -/
  | notIterable (kind : String)
  /-- A value in which membership cannot be asked. -/
  | notContainer (kind : String)
  /-- A value without a length. -/
  | noLength (kind : String)
  /-- A value whose parts cannot be picked. -/
  | notSubscriptable (kind : String)
  /-- A list picked by something that is not a position. -/
  | badIndex (kind indexKind : String)
  /-- A text picked by something that is not a position. -/
  | badTextIndex (indexKind : String)
  /-- A position beyond the end. -/
  | outOfRange (kind : String)
  /-- Two values that cannot be put together or compared. -/
  | badOperands (operator left right : String)
  /-- Two values that have no order. -/
  | noOrder (operator left right : String)
  /-- A value that cannot be a key. -/
  | unhashable (kind : String)
  | notPath (kind : String)
  /-- A form filled in with an entry it does not have. -/
  | unknownEntry (form entry : String)
  /-- A form with entries left open. -/
  | missingEntries (form : String) (entries : List String)
  /-- A form given entries that are not named ones. -/
  | notEntries (form kind : String)
  /-- Entries whose names are not texts. -/
  | entryNames
  /-- A text that is no whole number. -/
  | badNumeral (text : String)
  /-- A whole number with more digits than are read. -/
  | tooManyDigits (count : Nat)
  /-- A text that is none of the choices of a kind. -/
  | badChoice (value kind : String)
  /-- Data out of the range of their kind, in words. -/
  | badData (text : String)
  /-- A filter without a pattern. -/
  | emptyPattern
  /-- A needed environment setting is missing. -/
  | missingSettings (names : String)
  | misread (text : String) (why : Value.Json.Misread)
  | badYaml
  /-- Values that do not fit a schema. -/
  | invalid (problems : List (List Place × String))
  | undecodable (why : Text.DecodeError)
  | noFile (path : String)
  /-- A folder where a file is needed. -/
  | isFolder (path : String)
  /-- A file where a folder is needed. -/
  | notFolder (path : String)
  /-- A file in the place of a folder to be made. -/
  | fileExists (path : String)
  | nameTooLong (path : String)
  /-- A failure of the system, in its words. -/
  | system (text : String)
  /-- A failure of a collaborator, in its words. -/
  | outside (text : String)
  | notInstalled (name : String)
  /-- A command that ended with a failure. -/
  | commandFailed (command : String) (code : Int)
  /-- A value that a table cannot show. -/
  | notShowable (kind : String)
  /-- A text with a mark that a terminal cannot take, in its words. -/
  | badMark (text : String)
  /-- A value in the wrong shape for a format. -/
  | badFormat (code kind : String)
  /-- A helper called without what it needs. -/
  | helperMisuse (text : String)
  /-- Source code that cannot be parsed. -/
  | badSource (text : String)
  | endOfInput
  | interrupted
  /-- The program ends with a code. -/
  | exit (code : Int)
  /-- An answer to a web request that is a refusal. -/
  | refused (status : Int) (detail : String)

namespace Fault

/-- Names in a row: one, two joined by "and", more with commas. -/
def enumerate (names : List String) : String :=
  match names.map fun n => "'" ++ n ++ "'" with
  | [] => ""
  | [a] => a
  | [a, b] => a ++ " and " ++ b
  | many => ", ".intercalate (many.take (many.length - 1)) ++ ", and " ++ many.getLastD ""

def signals : List String :=
  ["HUP", "INT", "QUIT", "ILL", "TRAP", "ABRT", "BUS", "FPE", "KILL", "USR1", "SEGV", "USR2",
   "PIPE", "ALRM", "TERM", "STKFLT", "CHLD", "CONT", "STOP", "TSTP", "TTIN", "TTOU", "URG", "XCPU",
   "XFSZ", "VTALRM", "PROF", "WINCH", "IO", "PWR", "SYS"]

def signal? (n : Nat) : Option String :=
  if n == 34 then some "RTMIN" else if n == 64 then some "RTMAX"
  else if n == 0 then none else signals[n - 1]?

/-- How a command that failed ended: a code below zero is a signal. -/
def ending (code : Int) : String :=
  if 0 ≤ code then "returned non-zero exit status " ++ toString code ++ "."
  else
    let n := (-code).toNat
    match signal? n with
    | some name => "died with <Signals.SIG" ++ name ++ ": " ++ toString n ++ ">."
    | none => "died with unknown signal " ++ toString n ++ "."

/-- Whether the program is meant to end: by its user or by itself. -/
def isEnd : Fault → Bool
  | .interrupted | .exit _ => true
  | _ => false

/-- Whether values of the wrong kind or content are the cause. -/
def isUnfit : Fault → Bool
  | .notIterable _ | .notContainer _ | .noLength _ | .notSubscriptable _ | .badIndex _ _
  | .badTextIndex _ | .badOperands _ _ _ | .noOrder _ _ _ | .unhashable _ | .notPath _
  | .unknownEntry _ _ | .missingEntries _ _ | .notEntries _ _ | .entryNames | .helperMisuse _
  | .badNumeral _ | .tooManyDigits _ | .badChoice _ _ | .badData _ | .emptyPattern
  | .missingSettings _ | .badFormat _ _ | .misread _ _ | .invalid _ | .undecodable _ => true
  | _ => false

def message : Fault → String
  | .unknownKey name => Text.quoted name
  | .unknownNumber n => toString n
  | .noMember kind member => "'" ++ kind ++ "' object has no attribute '" ++ member ++ "'"
  | .noName name => "name '" ++ name ++ "' is not defined"
  | .notIterable kind => "'" ++ kind ++ "' object is not iterable"
  | .notContainer kind => "argument of type '" ++ kind ++ "' is not iterable"
  | .noLength kind => "object of type '" ++ kind ++ "' has no len()"
  | .notSubscriptable kind => "'" ++ kind ++ "' object is not subscriptable"
  | .badIndex kind indexKind =>
    kind ++ " indices must be integers or slices, not " ++ indexKind
  | .badTextIndex indexKind => "string indices must be integers, not '" ++ indexKind ++ "'"
  | .outOfRange kind => kind ++ " index out of range"
  | .badOperands operator left right =>
    "unsupported operand type(s) for " ++ operator ++ ": '" ++ left ++ "' and '" ++ right ++ "'"
  | .noOrder operator left right =>
    "'" ++ operator ++ "' not supported between instances of '" ++ left ++ "' and '" ++ right ++ "'"
  | .unhashable kind => "unhashable type: '" ++ kind ++ "'"
  | .notPath kind => "expected str, bytes or os.PathLike object, not " ++ kind
  | .unknownEntry form entry =>
    form ++ "() got an unexpected keyword argument '" ++ entry ++ "'"
  | .missingEntries form entries =>
    form ++ "() missing " ++ toString entries.length ++ " required positional argument" ++
      (if entries.length == 1 then "" else "s") ++ ": " ++ enumerate entries
  | .notEntries form kind => form ++ "() argument after ** must be a mapping, not " ++ kind
  | .entryNames => "keywords must be strings"
  | .badNumeral text =>
    "invalid literal for int() with base 10: " ++ String.ofList ((Text.quoted text).toList.take 200)
  | .tooManyDigits count =>
    "Exceeds the limit (" ++ toString Text.digitLimit ++ " digits) for integer string conversion: " ++
      "value has " ++ toString count ++
      " digits; use sys.set_int_max_str_digits() to increase the limit"
  | .badChoice value kind => value ++ " is not a valid " ++ kind
  | .badData text => text
  | .emptyPattern => "empty pattern"
  | .missingSettings names => names ++ " environment variables are required"
  | .misread text why => why.message text
  | .badYaml => ""
  | .invalid _ => ""
  | .undecodable why => why.message
  | .noFile path => "[Errno 2] No such file or directory: " ++ Text.quoted path
  | .isFolder path => "[Errno 21] Is a directory: " ++ Text.quoted path
  | .notFolder path => "[Errno 20] Not a directory: " ++ Text.quoted path
  | .fileExists path => "[Errno 17] File exists: " ++ Text.quoted path
  | .nameTooLong path => "[Errno 36] File name too long: " ++ Text.quoted path
  | .system text => text
  | .outside text => text
  | .notInstalled name => "No module named '" ++ name ++ "'"
  | .commandFailed command code => "Command " ++ command ++ " " ++ ending code
  | .notShowable kind =>
    "unable to render " ++ kind ++ "; a string or other renderable object is required"
  | .badMark text => text
  | .badFormat code kind =>
    "Unknown format code '" ++ code ++ "' for object of type '" ++ kind ++ "'"
  | .helperMisuse text => text
  | .badSource text => text
  | .endOfInput => "EOF when reading a line"
  | .interrupted => ""
  | .exit code => toString code
  | .refused _ detail => detail

end Fault

/-- The result of an operation that can fail. -/
abbrev Outcome (α : Type) := Except Fault α

/-- The whole number that a text spells. -/
def Text.whole (s : String) : Outcome Int :=
  match Text.digitsBeyondLimit? s, Text.numeral? s with
  | some count, _ => .error (.tooManyDigits count)
  | none, some n => .ok n
  | none, none => .error (.badNumeral s)

def Fault.ofMisread (text : String) (why : Value.Json.Misread) : Fault :=
  match why.flaw with
  | .tooManyDigits count => .tooManyDigits count
  | _ => .misread text why

def Value.ofJson (text : String) : Outcome Value :=
  (Value.Json.readUpTo (some Text.digitLimit) text).mapError (Fault.ofMisread text)

/-- A JSON text that gives no value is misread or has a number too long. -/
theorem Value.ofJson_eq_error {text : String} {fault : Fault}
    (h : Value.ofJson text = .error fault) :
    (∃ why, fault = .misread text why) ∨ ∃ count, fault = .tooManyDigits count := by
  unfold Value.ofJson at h
  cases hread : Value.Json.readUpTo (some Text.digitLimit) text with
  | ok v =>
    rw [hread] at h
    cases h
  | error why =>
    rw [hread] at h
    obtain rfl := Except.error.inj h
    unfold Fault.ofMisread
    split
    · exact .inr ⟨_, rfl⟩
    · exact .inl ⟨_, rfl⟩

-- =============================================================== forms

/-- A form with named entries, some of which may be left open. -/
structure Form where
  title : String
  required : List String
  optional : List String

/-- Checks the names of the entries a form is filled in with: an entry it does
not have is reported before one that is missing. -/
def Form.check (form : Form) (entries : List (String × Value)) : Outcome Unit :=
  match entries.find? fun e => !(form.required ++ form.optional).contains e.1 with
  | some (name, _) => .error (.unknownEntry form.title name)
  | none =>
    match form.required.filter fun name => (Value.lookup name entries).isNone with
    | [] => .ok ()
    | missing => .error (.missingEntries form.title missing)

end SourceAudit
