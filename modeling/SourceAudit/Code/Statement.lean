/-
The grammar of statements.
-/
import SourceAudit.Code.CasePattern

namespace SourceAudit.Code

open SourceAudit.Code.Parser

variable (self : Rules)

-- =================================================== simple statements

def assignedValue : Parser (Tree × Bool) := do
  if ← seesWord "yield" then return (← yieldExpression self, true)
  return (← self .expressions, false)

/-- The values of an assignment with one or more targets. -/
def assignments : Nat → Tree → Parser (List Tree)
  | 0, _ => failure
  | fuel + 1, target => do
    require target.isTarget
    mark "="
    let (value, yielded) ← assignedValue self
    if ← seesMark "=" then
      require (!yielded)
      return target :: (← assignments fuel value)
    return [target, value]

def changes : List String :=
  ["+=", "-=", "*=", "@=", "/=", "%=", "&=", "|=", "^=", "<<=", ">>=", "**=", "//="]

def assignmentOrExpression : Parser Tree := do
  if ← seesWord "yield" then return .node .expression [← yieldExpression self]
  let first ← self .expressions
  match ← peek with
  | .mark ":" =>
    require first.isPlace
    advance
    let annotation ← self .expression
    if ← skipMark "=" then
      let (value, _) ← assignedValue self
      return .node .annotatedAssign [first, annotation, value]
    return .node .annotatedAssign [first, annotation]
  | .mark "=" =>
    let tokens ← read
    return .node .assign (← assignments self (tokens.size + 1) first)
  | .mark m =>
    if changes.contains m then
      require first.isPlace
      advance
      let (value, _) ← assignedValue self
      return .node .augmentedAssign [first, value]
    return .node .expression [first]
  | _ => return .node .expression [first]

def dottedModule : Parser String := do
  let first ← identifier
  let rest ← many (mark "." *> identifier)
  return ".".intercalate (first :: rest)

def importAlias : Parser Unit := do
  if ← seesWord "as" then
    advance
    let _ ← identifier

def importStatement : Parser Tree := do
  word "import"
  let modules ← separated do
    let name ← dottedModule
    importAlias
    return name
  return .imports modules

def importedNames : Parser Unit := do
  let one : Parser Unit := do
    let _ ← identifier
    importAlias
  if ← skipMark "*" then return
  if ← skipMark "(" then
    let _ ← listed one
    mark ")"
  else
    let (_, trailing) ← listed one
    require (!trailing)

def importFromStatement : Parser Tree := do
  word "from"
  let dots ← many do
    if ← seesMark "." then advance
    else mark "..."
  let source ← maybe dottedModule
  require (source.isSome || !dots.isEmpty)
  word "import"
  importedNames
  return .importFrom source

def raiseStatement : Parser Tree := do
  word "raise"
  match ← maybe (self .expression) with
  | none => return .node .raiseUp []
  | some what =>
    if ← seesWord "from" then
      advance
      return .node .raiseUp [what, ← self .expression]
    return .node .raiseUp [what]

def deleteStatement : Parser Tree := do
  word "del"
  let (targets, _) ← listed (self .primary)
  require (Tree.allDeletable targets)
  require ((← seesMark ";") || (← sees .newline))
  return .node .delete targets

def assertStatement : Parser Tree := do
  word "assert"
  let condition ← self .expression
  if ← skipMark "," then return .node .assertThat [condition, ← self .expression]
  return .node .assertThat [condition]

def simpleStatement : Parser Tree := do
  match ← peek with
  | .keyword "return" =>
    advance
    let values ← maybe (self .expressions)
    return .node .returnOut values.toList
  | .keyword "import" => importStatement
  | .keyword "from" => importFromStatement
  | .keyword "raise" => raiseStatement self
  | .keyword "pass" => advance; return .node .pass []
  | .keyword "del" => deleteStatement self
  | .keyword "assert" => assertStatement self
  | .keyword "break" => advance; return .node .breakOut []
  | .keyword "continue" => advance; return .node .continueOn []
  | .keyword "global" =>
    advance
    let _ ← separated identifier
    return .node .globalNames []
  | .keyword "nonlocal" =>
    advance
    let _ ← separated identifier
    return .node .nonlocalNames []
  | _ => assignmentOrExpression self

def simpleStatements : Parser (List Tree) := do
  let first ← simpleStatement self
  let rest ← many (mark ";" *> simpleStatement self)
  let _ ← skipMark ";"
  token .newline
  return first :: rest

-- ================================================= compound statements

def body : Parser (List Tree) := do
  mark ":"
  match ← self .block with
  | .node _ parts => return parts
  | _ => failure

/-- A branch that is taken when no other is. -/
def otherwise : Parser (List Tree) := do
  if ← seesWord "else" then
    advance
    body self
  else return []

def ifStatement : Parser Tree := do
  word "if"
  let condition ← namedExpression self
  let first ← body self
  let others ← many do
    word "elif"
    let condition ← namedExpression self
    return condition :: (← body self)
  let last ← otherwise self
  return .node .branch (condition :: first ++ others.flatten ++ last)

def whileStatement : Parser Tree := do
  word "while"
  let condition ← namedExpression self
  let inner ← body self
  let last ← otherwise self
  return .node .whileTrue (condition :: inner ++ last)

def forStatement (kind : Kind) : Parser Tree := do
  word "for"
  let target ← iterationTargets self
  word "in"
  let source ← self .expressions
  let inner ← body self
  let last ← otherwise self
  return .node kind (target :: source :: inner ++ last)

def withItem : Parser (List Tree) := do
  let source ← self .expression
  let named ← maybe do
    word "as"
    let target ← iterationTarget self
    require ((← seesMark ",") || (← seesMark ")") || (← seesMark ":"))
    return target
  return source :: named.toList

/-- "with" and its items, perhaps in brackets. -/
def withStatement (kind : Kind) : Parser Tree := do
  word "with"
  let bracketed : Parser (List Tree) := do
    mark "("
    let (items, _) ← listed (withItem self)
    mark ")"
    return items.flatten ++ (← body self)
  let plain : Parser (List Tree) := do
    let items ← separated (withItem self)
    return items.flatten ++ (← body self)
  return .node kind (← bracketed <|> plain)

def handler (grouped : Bool) : Parser (List Tree) := do
  word "except"
  if grouped then mark "*"
  if !grouped && (← seesMark ":") then return ← body self
  let what ← self .expression
  if ← seesWord "as" then
    advance
    let _ ← identifier
  return what :: (← body self)

/-- A last body that always runs. -/
def finallyBody : Parser (List Tree) := do
  word "finally"
  body self

def tryStatement : Parser Tree := do
  word "try"
  let inner ← body self
  if ← seesWord "finally" then return .node .tryAll (inner ++ (← finallyBody self))
  let grouped := (← peek) == .keyword "except" && (← peekSecond) == .mark "*"
  let handlers ← many1 (handler self grouped)
  let last ← otherwise self
  let final ← if ← seesWord "finally" then finallyBody self else pure []
  return .node (if grouped then .tryStar else .tryAll) (inner ++ handlers.flatten ++ last ++ final)

def functionStatement (kind : Kind) (decorators : List Tree) : Parser Tree := do
  word "def"
  let _ ← identifier
  mark "("
  let trees ← parameters self true ")"
  mark ")"
  let returns ← if ← skipMark "->" then pure [← self .expression] else pure []
  let inner ← body self
  return .node kind (decorators ++ trees ++ returns ++ inner)

def classStatement (decorators : List Tree) : Parser Tree := do
  word "class"
  let _ ← identifier
  let bases ← if ← skipMark "(" then do
      let given ← arguments self
      mark ")"
      pure given
    else pure []
  let inner ← body self
  return .node .classDef (decorators ++ bases ++ inner)

def asyncStatement (decorators : List Tree) : Parser Tree := do
  word "async"
  if ← seesWord "def" then functionStatement self .asyncFunctionDef decorators
  else
    require decorators.isEmpty
    if ← seesWord "for" then forStatement self .asyncForEach
    else withStatement self .asyncWithEach

def decoratedStatement : Parser Tree := do
  let decorators ← many1 do
    mark "@"
    let t ← namedExpression self
    token .newline
    return t
  if ← seesWord "class" then classStatement self decorators
  else if ← seesWord "async" then
    require ((← peekSecond) == .keyword "def")
    asyncStatement self decorators
  else functionStatement self .functionDef decorators

def caseClause : Parser (List Tree) := do
  softWord "case"
  let pattern ← topPattern self
  let guards ← if ← seesWord "if" then do
      advance
      pure [← namedExpression self]
    else pure []
  return pattern :: guards ++ (← body self)

def matchSubject : Parser Tree := do
  let first ← item self
  if ← skipMark "," then
    let rest ← maybe (listed (item self))
    return .node .tuple (first :: (rest.map Prod.fst).getD [])
  require (!isStarred first)
  return first

def matchStatement : Parser Tree := do
  softWord "match"
  let subject ← matchSubject self
  mark ":"
  token .newline
  token .indent
  let cases ← many1 (caseClause self)
  token .dedent
  return .node .matchCase (subject :: cases.flatten)

def statement : Parser (List Tree) := do
  match ← peek with
  | .keyword "if" => return [← ifStatement self]
  | .keyword "while" => return [← whileStatement self]
  | .keyword "for" => return [← forStatement self .forEach]
  | .keyword "with" => return [← withStatement self .withEach]
  | .keyword "try" => return [← tryStatement self]
  | .keyword "def" => return [← functionStatement self .functionDef []]
  | .keyword "class" => return [← classStatement self []]
  | .keyword "async" => return [← asyncStatement self []]
  | .mark "@" => return [← decoratedStatement self]
  | .name "match" => (do return [← matchStatement self]) <|> simpleStatements self
  | _ => simpleStatements self

def block : Parser Tree := do
  if ← sees .newline then
    advance
    token .indent
    let statements ← many1 (statement self)
    token .dedent
    return part statements.flatten
  return part (← simpleStatements self)

-- ============================================================= modules

/-- How a goal is read, given how the goals inside it are. -/
def ruleFor : Goal → Parser Tree
  | .expression => expression self
  | .inversion => inversion self
  | .operand => operand self
  | .factor => factor self
  | .primary => primary self
  | .expressions => expressions self
  | .block => block self
  | .pattern => casePattern self

/-- The rules of the grammar, for parts nested up to the given depth. -/
def grammar : Nat → Rules
  | 0, _ => failure
  | depth + 1, goal => ruleFor (grammar depth) goal

def moduleStatements : Parser (List Tree) := do
  let statements ← many (statement self)
  token .finish
  return statements.flatten

/-- The statements of a source text, none if it cannot be parsed. Parts can only
be nested as deep as the text is long. -/
def parse? (source : List Char) : Option (List Tree) := do
  let tokens ← tokens? source
  let (statements, _) ← ((moduleStatements (grammar (8 * source.length + 8))).run 0).run tokens
  return statements

end SourceAudit.Code
