/-
Environment settings: texts by name, read as text, as whole numbers, as lists or
as switches.
-/
import SourceAudit.Fault
import SourceAudit.Text.Case

namespace SourceAudit

/-- The settings of the environment. -/
structure Environment where
  entries : List (String × String)

namespace Environment

def get? (env : Environment) (name : String) : Option String :=
  (env.entries.find? fun e => e.1 == name).map Prod.snd

def text (env : Environment) (name usual : String) : String :=
  (env.get? name).getD usual

def whole (env : Environment) (name : String) (usual : Int) : Outcome Int :=
  match env.get? name with
  | none => .ok usual
  | some s => Text.whole s

def list (env : Environment) (name usual : String) : List String :=
  Text.splitOnChar ',' (env.text name usual)

/-- A setting that is a switch: on if its text is "true" in any case. -/
def switch (env : Environment) (name : String) : Bool :=
  Text.lower (env.text name "false") == "true"

end Environment

end SourceAudit
