/-
The grammar of expressions, from the loosest binding down to the tightest.
-/
import SourceAudit.Code.Quoted

namespace SourceAudit.Code

open SourceAudit.Code.Parser

variable (self : Rules)

/-- A node that no audit tells apart from others. -/
def part (parts : List Tree) : Tree :=
  .node .other parts

/-- An expression that may give its value a name. -/
def namedExpression : Parser Tree := do
  match ← peek, ← peekSecond with
  | .name _, .mark ":=" =>
    let name ← identifier
    advance
    let value ← self .expression
    return part [.name name, value]
  | _, _ => self .expression

/-- Whether an expression that gives its value a name comes next. -/
def seesNaming : Parser Bool := do
  match ← peek, ← peekSecond with
  | .name _, .mark ":=" => return true
  | _, _ => return false

-- ========================================================== parameters

/-- Where a list of parameters stands. -/
structure ParameterState where
  /-- A parameter has been read. -/
  any : Bool := false
  /-- A parameter with a default has been read. -/
  defaulted : Bool := false
  /-- The end of the positional parameters has been marked. -/
  slashed : Bool := false
  /-- A star has been read: named parameters follow. -/
  starred : Bool := false
  /-- The star stood alone and still needs a parameter. -/
  needy : Bool := false
  /-- The parameter for all other named arguments has been read. -/
  complete : Bool := false

def parameter (annotated starry : Bool) : Parser (List Tree) := do
  let _ ← identifier
  if annotated then
    if ← skipMark ":" then
      if starry then
        if ← skipMark "*" then return [part [← self .expression]]
      return [← self .expression]
  return []

/-- One entry of a list of parameters: what it holds and the state after it. -/
def parameterEntry (annotated : Bool) (s : ParameterState) :
    Parser (List Tree × ParameterState) := do
  require (!s.complete)
  if ← skipMark "/" then
    require (s.any && !s.slashed && !s.starred)
    return ([], { s with slashed := true })
  if ← skipMark "*" then
    require (!s.starred)
    if ← seesMark "," then return ([], { s with starred := true, needy := true })
    let trees ← parameter self annotated true
    return (trees, { s with starred := true })
  if ← skipMark "**" then
    require (!s.needy)
    let trees ← parameter self annotated false
    return (trees, { s with complete := true })
  let trees ← parameter self annotated false
  if ← skipMark "=" then
    let value ← self .expression
    return (trees ++ [value], { s with any := true, defaulted := true, needy := false })
  require (!s.defaulted || s.starred)
  return (trees, { s with any := true, needy := false })

/-- The entries of a list of parameters that ends before `close`. -/
def parameterEntries (annotated : Bool) (close : String) :
    Nat → ParameterState → Parser (List Tree)
  | 0, _ => failure
  | fuel + 1, s => do
    if ← seesMark close then
      require (!s.needy)
      return []
    let (trees, s) ← parameterEntry self annotated s
    if ← skipMark "," then
      return trees ++ (← parameterEntries annotated close fuel s)
    require (!s.needy && (← seesMark close))
    return trees

/-- The parameters before `close`: the trees of their annotations and defaults. -/
def parameters (annotated : Bool) (close : String) : Parser (List Tree) := do
  let tokens ← read
  parameterEntries self annotated close (tokens.size + 1) {}

def lambda : Parser Tree := do
  word "lambda"
  let trees ← parameters self false ":"
  mark ":"
  let body ← self .expression
  return part (trees ++ [body])

-- ============================================================== slices

/-- The part of a slice after its first colon. -/
def sliceTail (first : List Tree) : Parser Tree := do
  mark ":"
  let upper ← maybe (self .expression)
  let step ← if ← skipMark ":" then maybe (self .expression) else pure none
  return part (first ++ upper.toList ++ step.toList)

def slice : Parser Tree := do
  if ← seesMark ":" then sliceTail self []
  else if ← seesNaming then namedExpression self
  else
    let first ← self .expression
    if ← seesMark ":" then sliceTail self [first] else return first

def sliceOrStarred : Parser Tree := do
  if ← skipMark "*" then return .node .starred [← self .expression]
  slice self

/-- What stands between the brackets of a subscript. -/
def slices : Parser Tree := do
  let starred ← seesMark "*"
  let (items, trailing) ← listed (sliceOrStarred self)
  match items, trailing || starred with
  | [t], false => return t
  | _, _ => return .node .tuple items

-- ====================================================== comprehensions

/-- String literals in a row, all of bytes or none. -/
def literals : Parser Tree := do
  let found ← many1 do
    match ← peek with
    | .literal l => advance; return l
    | _ => failure
  require (found.all Literal.bytes || !found.any Literal.bytes)
  match found.mapM (literalTrees? self) with
  | some trees => return part trees.flatten
  | none => failure

/-- Comparisons, then "not", "and" and "or": the operands of a condition. -/
def disjunction : Parser Tree := do
  let conjunction : Parser Tree := do
    let first ← self .inversion
    let rest ← many (word "and" *> self .inversion)
    return if rest.isEmpty then first else part (first :: rest)
  let first ← conjunction
  let rest ← many (word "or" *> conjunction)
  return if rest.isEmpty then first else part (first :: rest)

/-- A target of an iteration: a place, perhaps starred. -/
def iterationTarget : Parser Tree := do
  let starred ← skipMark "*"
  let t ← self .primary
  require t.isTarget
  return if starred then .node .starred [t] else t

def iterationTargets : Parser Tree := do
  let (items, trailing) ← listed (iterationTarget self)
  match items, trailing with
  | [t], false => return t
  | _, _ => return .node .tuple items

def comprehensionClause : Parser (List Tree) := do
  if ← seesWord "async" then advance
  word "for"
  let target ← iterationTargets self
  word "in"
  let source ← disjunction self
  let conditions ← many (word "if" *> disjunction self)
  return target :: source :: conditions

def comprehension : Parser (List Tree) := do
  return (← many1 (comprehensionClause self)).flatten

def seesComprehension : Parser Bool := do
  return (← seesWord "for") || (← seesWord "async")

/-- An item of a tuple, list or set: a value or the values of another one. -/
def item : Parser Tree := do
  if ← skipMark "*" then return .node .starred [← self .operand]
  namedExpression self

def isStarred : Tree → Bool
  | .node .starred _ => true
  | _ => false

def yieldExpression : Parser Tree := do
  word "yield"
  if ← seesWord "from" then
    advance
    return part [← self .expression]
  let values ← maybe (self .expressions)
  return part values.toList

-- =========================================================== arguments

/-- How far the arguments of a call have come: any may follow, named ones and
starred ones, or named ones and mappings. -/
inductive ArgumentPhase where
  | any
  | named
  | mapped
  deriving DecidableEq

def argument (phase : ArgumentPhase) : Parser (Tree × ArgumentPhase) := do
  if ← skipMark "**" then
    return (.keyword none (← self .expression), .mapped)
  if ← skipMark "*" then
    require (phase != .mapped)
    return (.node .starred [← self .expression], phase)
  match ← peek, ← peekSecond with
  | .name _, .mark "=" =>
    let name ← identifier
    advance
    let value ← self .expression
    return (.keyword (some name) value, if phase == .any then .named else phase)
  | _, _ =>
    require (phase == .any)
    return (← namedExpression self, phase)

/-- Arguments up to the closing bracket, which stays. -/
def argumentsFrom : Nat → ArgumentPhase → Parser (List Tree)
  | 0, _ => failure
  | fuel + 1, phase => do
    if ← seesMark ")" then return []
    let (first, phase) ← argument self phase
    if ← skipMark "," then return first :: (← argumentsFrom fuel phase)
    require (← seesMark ")")
    return [first]

def arguments : Parser (List Tree) := do
  let tokens ← read
  argumentsFrom self (tokens.size + 1) .any

/-- The arguments of a call; a generator can be the only one. -/
def callArguments : Parser (List Tree) := do
  if ← seesMark ")" then return []
  let tokens ← read
  let (first, phase) ← argument self .any
  if ← seesComprehension then
    require (phase == .any && !isStarred first)
    return [part (first :: (← comprehension self))]
  if ← skipMark "," then
    return first :: (← argumentsFrom self (tokens.size + 1) phase)
  return [first]

-- ============================================================ brackets

/-- What starts with a round bracket: a tuple, an expression or a generator. -/
def roundAtom : Parser Tree := do
  mark "("
  if ← skipMark ")" then return .node .tuple []
  if ← seesWord "yield" then
    let t ← yieldExpression self
    mark ")"
    return t
  let first ← item self
  if ← skipMark ")" then
    require (!isStarred first)
    return first
  if ← seesComprehension then
    require (!isStarred first)
    let clauses ← comprehension self
    mark ")"
    return part (first :: clauses)
  mark ","
  let rest ← maybe (listed (item self))
  mark ")"
  return .node .tuple (first :: (rest.map Prod.fst).getD [])

/-- What starts with a square bracket: a list, written out or comprehended. -/
def squareAtom : Parser Tree := do
  mark "["
  if ← skipMark "]" then return .node .list []
  let first ← item self
  if ← seesComprehension then
    require (!isStarred first)
    let clauses ← comprehension self
    mark "]"
    return part (first :: clauses)
  let rest ← many (mark "," *> item self)
  let _ ← skipMark ","
  mark "]"
  return .node .list (first :: rest)

/-- An entry of a mapping: a key with its value, or the entries of another one. -/
def mappingEntry : Parser (List Tree) := do
  if ← skipMark "**" then return [← self .operand]
  let key ← self .expression
  mark ":"
  return [key, ← self .expression]

/-- The entries of a mapping after the first, and the closing brace. -/
def mappingTail (first : List Tree) : Parser Tree := do
  let rest ← many (mark "," *> mappingEntry self)
  let _ ← skipMark ","
  mark "\x7d"
  return part (first ++ rest.flatten)

/-- What starts with a brace: a mapping or a set, written out or comprehended. -/
def curlyAtom : Parser Tree := do
  mark "\x7b"
  if ← skipMark "\x7d" then return part []
  if ← seesMark "**" then
    let first ← mappingEntry self
    return ← mappingTail self first
  let naming ← seesNaming
  let first ← item self
  if ← seesMark ":" then
    require (!naming && !isStarred first)
    advance
    let value ← self .expression
    if ← seesComprehension then
      let clauses ← comprehension self
      mark "\x7d"
      return part (first :: value :: clauses)
    return ← mappingTail self [first, value]
  if ← seesComprehension then
    require (!isStarred first)
    let clauses ← comprehension self
    mark "\x7d"
    return part (first :: clauses)
  let rest ← many (mark "," *> item self)
  let _ ← skipMark ","
  mark "\x7d"
  return part (first :: rest)

/-- An expression that holds together by itself. -/
def atom : Parser Tree := do
  match ← peek with
  | .name _ => return .name (← identifier)
  | .keyword w =>
    require (w == "True" || w == "False" || w == "None")
    advance
    return part []
  | .number _ => advance; return part []
  | .literal _ => literals self
  | .mark "(" => roundAtom self
  | .mark "[" => squareAtom self
  | .mark "\x7b" => curlyAtom self
  | .mark "..." => advance; return part []
  | _ => failure

/-- What follows an atom: members, calls and subscripts. -/
def trailers : Nat → Tree → Parser Tree
  | 0, _ => failure
  | fuel + 1, t => do
    if ← skipMark "." then
      let member ← identifier
      trailers fuel (.attribute t member)
    else if ← skipMark "(" then
      let given ← callArguments self
      mark ")"
      trailers fuel (.call t given)
    else if ← skipMark "[" then
      let inner ← slices self
      mark "]"
      trailers fuel (.node .subscript [t, inner])
    else return t

def primary : Parser Tree := do
  let tokens ← read
  let t ← atom self
  trailers self (tokens.size + 1) t

-- =========================================================== operators

def chain (operators : List String) (operand : Parser Tree) : Parser Tree := do
  let first ← operand
  let rest ← many do
    match ← peek with
    | .mark m => require (operators.contains m); advance; operand
    | _ => failure
  return if rest.isEmpty then first else part (first :: rest)

/-- A sign with its operand, or a power. -/
def factor : Parser Tree := do
  match ← peek with
  | .mark m =>
    if m == "+" || m == "-" || m == "~" then
      advance
      return part [← self .factor]
  | _ => pure ()
  let awaited ← seesWord "await"
  if awaited then advance
  let base ← self .primary
  let base := if awaited then part [base] else base
  if ← skipMark "**" then return part [base, ← self .factor]
  return base

def operand : Parser Tree :=
  chain ["|"] <| chain ["^"] <| chain ["&"] <| chain ["<<", ">>"] <| chain ["+", "-"] <|
    chain ["*", "/", "//", "%", "@"] (factor self)

def comparator : Parser Unit := do
  match ← peek with
  | .mark m =>
    require (["==", "!=", "<=", "<", ">=", ">"].contains m)
    advance
  | .keyword "in" => advance
  | .keyword "is" =>
    advance
    if ← seesWord "not" then advance
  | .keyword "not" =>
    advance
    word "in"
  | _ => failure

def inversion : Parser Tree := do
  if ← seesWord "not" then
    advance
    return part [← self .inversion]
  let first ← self .operand
  let rest ← many (comparator *> self .operand)
  return if rest.isEmpty then first else part (first :: rest)

def alternative (value : Tree) : Parser Tree := do
  word "if"
  let condition ← disjunction self
  word "else"
  let other ← self .expression
  return part [condition, value, other]

def expression : Parser Tree := do
  if ← seesWord "lambda" then lambda self
  else
    let value ← disjunction self
    alternative self value <|> pure value

def rowItem : Parser Tree := do
  if ← skipMark "*" then return .node .starred [← self .operand]
  self .expression

/-- Expressions with commas between them: a tuple unless there is only one. -/
def expressions : Parser Tree := do
  let (items, trailing) ← listed (rowItem self)
  match items, trailing with
  | [t], false => return t
  | _, _ => return .node .tuple items

end SourceAudit.Code
