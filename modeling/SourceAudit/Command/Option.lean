/-
Options on a command line.

An option has a long name and perhaps a letter. `--name value`, `--name=value`,
`-n value` and `-nvalue` give its value; letters of flags can be put together. `--`
ends the options. An option that takes a value takes the next word whatever it is.
-/
import SourceAudit.Text.Quote
import SourceAudit.Text.Search
import SourceAudit.Text.Similar

namespace SourceAudit.Command

-- ============================================================= options

/-- What an option takes. -/
inductive Kind where
  | flag
  | text
  | whole
  | path
  | existing
  | choice (words : List String)

def Kind.word : Kind → Option String
  | .flag => none
  | .text => some "TEXT"
  | .whole => some "INTEGER"
  | .path | .existing => some "PATH"
  | .choice words => some ("[" ++ "|".intercalate words ++ "]")

def Kind.takesValue : Kind → Bool
  | .flag => false
  | _ => true

/-- An option. -/
structure Opt where
  /-- The long name, with its two dashes. -/
  name : String
  letter : Option Char
  kind : Kind
  /-- Whether all values that are given count, and not only the last. -/
  many : Bool
  help : String

namespace Opt

def forHelp : Opt := ⟨"--help", none, .flag, false, "Show this message and exit."⟩

def short? (o : Opt) : Option String :=
  o.letter.map fun c => "-" ++ c.toString

def cited (o : Opt) : String :=
  " / ".intercalate ((o.name :: o.short?.toList).map fun n => "'" ++ n ++ "'")

end Opt

-- ============================================================= misuse

/-- What is wrong with the options of a command line. -/
inductive Misuse where
  /-- An option that is not known, with names that are close. -/
  | unknown (name : String) (close : List String)
  /-- An option without the value it takes. -/
  | noValue (name : String)
  | strayValue (name : String)

namespace Misuse

def message : Misuse → String
  | .unknown name [] => "No such option: " ++ name
  | .unknown name [one] => "No such option: " ++ name ++ " Did you mean " ++ one ++ "?"
  | .unknown name many =>
    "No such option: " ++ name ++ " (Possible options: " ++
      ", ".intercalate (many.mergeSort fun a b => decide (a ≤ b)) ++ ")"
  | .noValue name => "Option " ++ Text.quoted name ++ " requires an argument."
  | .strayValue name => "Option " ++ Text.quoted name ++ " does not take a value."

def showsUsage : Misuse → Bool
  | .unknown _ _ => true
  | _ => false

end Misuse

-- ============================================================= reading

/-- An option as it was given: a flag has no value. -/
structure Given where
  option : Opt
  value : Option String

/-- What was read of a command line; the last comes first in each list. -/
structure Words where
  given : List Given
  /-- An option that still takes its value, and the name it was given by. -/
  waiting : Option (Opt × String)
  loose : List String

namespace Words

def none : Words := ⟨[], .none, []⟩

def give (w : Words) (o : Opt) (value : Option String) : Words :=
  { w with given := ⟨o, value⟩ :: w.given }

/-- One more option, which may still take its value. -/
def begin (w : Words) (o : Opt) (name : String) : Words :=
  if o.kind.takesValue then { w with waiting := some (o, name) } else w.give o .none

end Words

def readLetters (options : List Opt) (w : Words) : List Char → Except Misuse Words
  | [] => .ok w
  | c :: rest =>
    match options.find? fun o => o.letter == some c with
    | none => .error (.unknown ("-" ++ c.toString) [])
    | some o =>
      if o.kind.takesValue && !rest.isEmpty then .ok (w.give o (some (String.ofList rest)))
      else readLetters options (w.begin o ("-" ++ c.toString)) rest

/-- Divides a word at its first equals sign. -/
def divide (word : String) : String × Option String :=
  let cs := word.toList
  let name := cs.takeWhile fun c => c != '='
  match cs.drop name.length with
  | [] => (word, none)
  | _ :: value => (String.ofList name, some (String.ofList value))

def readOption (options : List Opt) (w : Words) (word : String) : Except Misuse Words :=
  let (name, value) := divide word
  match options.find? fun o => o.name == name with
  | some o =>
    match value with
    | none => .ok (w.begin o name)
    | some v => if o.kind.takesValue then .ok (w.give o (some v)) else .error (.strayValue name)
  | none =>
    if Text.startsWith "--" word then
      .error (.unknown name (Text.closest name (options.map Opt.name)))
    else readLetters options w (word.toList.drop 1)

def isOption (word : String) : Bool :=
  Text.startsWith "-" word && 1 < word.length

/-- Reads a command line. Where options and other words do not mix, the first other
word ends the options. -/
def read (options : List Opt) (mixed : Bool) (w : Words) : List String → Except Misuse Words
  | [] =>
    match w.waiting with
    | some (_, name) => .error (.noValue name)
    | none => .ok w
  | word :: rest =>
    match w.waiting with
    | some (o, _) => read options mixed ({ w with waiting := none }.give o (some word)) rest
    | none =>
      if word == "--" then .ok { w with loose := rest.reverse ++ w.loose }
      else if isOption word then
        match readOption options w word with
        | .ok w => read options mixed w rest
        | .error m => .error m
      else if mixed then read options mixed { w with loose := word :: w.loose } rest
      else .ok { w with loose := rest.reverse ++ word :: w.loose }

-- ============================================================== values

/-- The options that were given, each once, in the order in which they first were. -/
def Words.inOrder (w : Words) : List Opt :=
  w.given.foldr (fun g done =>
    if done.any fun o => o.name == g.option.name then done else done ++ [g.option]) []

def Words.values (w : Words) (name : String) : List String :=
  (w.given.filter fun g => g.option.name == name).reverse.filterMap Given.value

def Words.value? (w : Words) (name : String) : Option String :=
  (w.values name).getLast?

def Words.has (w : Words) (name : String) : Bool :=
  w.given.any fun g => g.option.name == name

end SourceAudit.Command
