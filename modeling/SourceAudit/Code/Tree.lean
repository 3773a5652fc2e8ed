/-
Syntax trees of Python source, in the detail that audits look at: names, members,
calls and imports say what they are about; every other node has a kind and parts.
-/
namespace SourceAudit.Code

/-- What a node is. Expressions that no audit tells apart are `other`. -/
inductive Kind where
  | functionDef
  | asyncFunctionDef
  | classDef
  | returnOut
  | delete
  | assign
  | augmentedAssign
  | annotatedAssign
  | forEach
  | asyncForEach
  | whileTrue
  | branch
  | withEach
  | asyncWithEach
  | matchCase
  | raiseUp
  | tryAll
  | tryStar
  | assertThat
  | globalNames
  | nonlocalNames
  | expression
  | pass
  | breakOut
  | continueOn
  | tuple
  | list
  | starred
  | subscript
  | other
  deriving DecidableEq, Repr

def Kind.title : Kind → String
  | .functionDef => "FunctionDef"
  | .asyncFunctionDef => "AsyncFunctionDef"
  | .classDef => "ClassDef"
  | .returnOut => "Return"
  | .delete => "Delete"
  | .assign => "Assign"
  | .augmentedAssign => "AugAssign"
  | .annotatedAssign => "AnnAssign"
  | .forEach => "For"
  | .asyncForEach => "AsyncFor"
  | .whileTrue => "While"
  | .branch => "If"
  | .withEach => "With"
  | .asyncWithEach => "AsyncWith"
  | .matchCase => "Match"
  | .raiseUp => "Raise"
  | .tryAll => "Try"
  | .tryStar => "TryStar"
  | .assertThat => "Assert"
  | .globalNames => "Global"
  | .nonlocalNames => "Nonlocal"
  | .expression => "Expr"
  | .pass => "Pass"
  | .breakOut => "Break"
  | .continueOn => "Continue"
  | .tuple => "Tuple"
  | .list => "List"
  | .starred => "Starred"
  | .subscript => "Subscript"
  | .other => ""

/-- A syntax tree. -/
inductive Tree where
  | name (id : String)
  | attribute (value : Tree) (member : String)
  | call (callee : Tree) (arguments : List Tree)
  /-- An argument given by name; without a name, a whole mapping of arguments. -/
  | keyword (name : Option String) (value : Tree)
  | imports (modules : List String)
  | importFrom (source : Option String)
  | node (kind : Kind) (parts : List Tree)

namespace Tree

/-- The name of the kind of a statement. -/
def title : Tree → String
  | .name _ => "Name"
  | .attribute _ _ => "Attribute"
  | .call _ _ => "Call"
  | .keyword _ _ => "keyword"
  | .imports _ => "Import"
  | .importFrom _ => "ImportFrom"
  | .node kind _ => kind.title

mutual

/-- Whether one of the outermost hits in a tree counts: going down from the root,
`stop` decides at each node whether to answer there or to go on to the parts. -/
def search (stop : Tree → Option Bool) (t : Tree) : Bool :=
  match stop t with
  | some answer => answer
  | none =>
    match t with
    | .name _ => false
    | .attribute value _ => search stop value
    | .call callee arguments => search stop callee || searchAny stop arguments
    | .keyword _ value => search stop value
    | .imports _ => false
    | .importFrom _ => false
    | .node _ parts => searchAny stop parts

def searchAny (stop : Tree → Option Bool) : List Tree → Bool
  | [] => false
  | t :: rest => search stop t || searchAny stop rest

end

/-- Something one value can be assigned to. -/
def isPlace : Tree → Bool
  | .name _ => true
  | .attribute _ _ => true
  | .node .subscript _ => true
  | _ => false

mutual

/-- Something that can be deleted: a place, or a tuple or list of such. -/
def isDeletable : Tree → Bool
  | .name _ => true
  | .attribute _ _ => true
  | .node .subscript _ => true
  | .node .tuple parts => allDeletable parts
  | .node .list parts => allDeletable parts
  | _ => false

def allDeletable : List Tree → Bool
  | [] => true
  | t :: rest => isDeletable t && allDeletable rest

end

mutual

/-- Something values can be assigned to: a place, a tuple or list of such, each
perhaps starred. -/
def isTarget : Tree → Bool
  | .name _ => true
  | .attribute _ _ => true
  | .node .subscript _ => true
  | .node .starred parts => allTargets parts
  | .node .tuple parts => allTargets parts
  | .node .list parts => allTargets parts
  | _ => false

def allTargets : List Tree → Bool
  | [] => true
  | t :: rest => isTarget t && allTargets rest

end

end Tree

end SourceAudit.Code
