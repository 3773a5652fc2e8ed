/-
What audits look for in a syntax tree: sensitive names and unsalted anonymization
on one side, signs that a model is explained on the other. Neither looks inside
the arguments of a call.
-/
import SourceAudit.Code.Statement
import SourceAudit.Fault
import SourceAudit.Text.Case

namespace SourceAudit.Code

-- ============================================================= privacy

/-- Methods that make data anonymous. -/
def anonymizers : List String :=
  ["anonymize", "pseudonymize"]

def isSalt : Tree → Bool
  | .keyword (some "salt") _ => true
  | _ => false

/-- Whether a call anonymizes data without a salt. -/
def isUnsalted (callee : Tree) (arguments : List Tree) : Bool :=
  match callee with
  | .attribute _ member => anonymizers.contains (Text.lower member) && !arguments.any isSalt
  | _ => false

/-- Whether a tree raises a privacy concern by itself; a name and a call settle
the question for all that is below them. -/
def privacyConcern (terms : List String) : Tree → Option Bool
  | .name id => some (terms.contains (Text.lower id))
  | .call callee arguments => some (isUnsalted callee arguments)
  | _ => none

/-- A privacy concern: its line, the source it is about and why there is one. -/
structure Concern where
  line : Nat
  snippet : String
  reason : String

/-- The privacy concerns of a module. A concern cannot be told: its report asks
for a piece of source without saying whose. -/
def privacyConcerns (terms : List String) (module : List Tree) : Outcome (List Concern) :=
  if Tree.searchAny (privacyConcern terms) module then
    .error (.missingEntries "get_source_segment" ["node"])
  else .ok []

-- ======================================================== explanations

def explainers : List String :=
  ["explain", "summary_plot", "force_plot"]

/-- Whether a tree shows by itself that a model is explained; an import and a
call settle the question for all that is below them. -/
def explanation (required : List String) : Tree → Option Bool
  | .imports modules =>
    some (modules.any fun m => required.contains ((Text.splitOnChar '.' m).headD ""))
  | .importFrom none => some false
  | .importFrom (some source) =>
    some (!source.isEmpty && (Text.splitOnChar '.' source).any required.contains)
  | .call (.attribute _ member) _ => some (explainers.contains member)
  | .call _ _ => some false
  | _ => none

def showsExplanation (required : List String) (module : List Tree) : Bool :=
  Tree.searchAny (explanation required) module

end SourceAudit.Code
