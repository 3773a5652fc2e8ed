/-
The grammar of the patterns of a case. The trees of a pattern are the values it
compares with; names that it binds are not among them.
-/
import SourceAudit.Code.Expression

namespace SourceAudit.Code

open SourceAudit.Code.Parser

variable (self : Rules)

def captureName : Parser Unit := do
  match ← peek with
  | .name spelling =>
    require (spelling != "_")
    advance
    match ← peek with
    | .mark m => require (m != "." && m != "(" && m != "=")
    | _ => pure ()
  | _ => failure

/-- A number with an optional sign: whether it is imaginary. -/
def signedNumber : Parser Bool := do
  let _ ← skipMark "-"
  match ← peek with
  | .number imaginary => advance; return imaginary
  | _ => failure

/-- A number of a pattern: a real one may be followed by an imaginary one. -/
def patternNumber : Parser Tree := do
  let imaginary ← signedNumber
  if (← seesMark "+") || (← seesMark "-") then
    advance
    match ← peek with
    | .number second =>
      require (!imaginary && second)
      advance
    | _ => failure
  return part []

def patternLiteral : Parser Tree := do
  match ← peek with
  | .number _ => patternNumber
  | .mark "-" => patternNumber
  | .literal _ => literals self
  | .keyword w =>
    require (w == "None" || w == "True" || w == "False")
    advance
    return part []
  | _ => failure

/-- A name with the members that follow it, and whether there are any. -/
def dottedName : Parser (Tree × Bool) := do
  let first ← identifier
  let members ← many (mark "." *> identifier)
  return (members.foldl Tree.attribute (.name first), !members.isEmpty)

/-- The arguments of a class pattern; named ones come last. -/
def classArguments : Nat → Bool → Parser (List Tree)
  | 0, _ => failure
  | fuel + 1, named => do
    if ← seesMark ")" then return []
    let (first, named) ← (do
      match ← peek, ← peekSecond with
      | .name _, .mark "=" =>
        advance
        advance
        return (← self .pattern, true)
      | _, _ =>
        require (!named)
        return (← self .pattern, false) : Parser (Tree × Bool))
    if ← skipMark "," then return first :: (← classArguments fuel named)
    require (← seesMark ")")
    return [first]

/-- A name in a pattern: a name to bind, a value or a class. -/
def namePattern : Parser Tree := do
  match ← peek, ← peekSecond with
  | .name "_", _ => advance; return part []
  | _, .mark "." => pure ()
  | _, .mark "(" => pure ()
  | _, _ =>
    captureName
    return part []
  let (t, dotted) ← dottedName
  if ← skipMark "(" then
    let tokens ← read
    let inner ← classArguments self (tokens.size + 1) false
    mark ")"
    return part (t :: inner)
  require (dotted && !(← seesMark "="))
  return part [t]

/-- A pattern in a sequence, perhaps for all the remaining items. -/
def sequenceItem : Parser (Tree × Bool) := do
  if ← skipMark "*" then
    match ← peek with
    | .name "_" => advance
    | _ => captureName
    return (part [], true)
  return (← self .pattern, false)

/-- A pattern in round brackets: itself alone or a sequence. -/
def roundPattern : Parser Tree := do
  mark "("
  if ← skipMark ")" then return part []
  let (first, starred) ← sequenceItem self
  if ← skipMark ")" then
    require (!starred)
    return first
  mark ","
  let rest ← maybe (listed (sequenceItem self))
  mark ")"
  return part (first :: ((rest.map fun r => r.1.map Prod.fst).getD []))

def squarePattern : Parser Tree := do
  mark "["
  if ← skipMark "]" then return part []
  let (items, _) ← listed (sequenceItem self)
  mark "]"
  return part (items.map Prod.fst)

def mappingItem : Parser (List Tree) := do
  let key ← (do
    match ← peek with
    | .name _ =>
      let (t, dotted) ← dottedName
      require dotted
      return t
    | _ => patternLiteral self : Parser Tree)
  mark ":"
  return [key, ← self .pattern]

/-- The entries of a mapping pattern; one for all the others comes last. -/
def mappingItems : Nat → Parser (List Tree)
  | 0 => failure
  | fuel + 1 => do
    if ← seesMark "\x7d" then return []
    if ← skipMark "**" then
      captureName
      let _ ← skipMark ","
      require (← seesMark "\x7d")
      return []
    let first ← mappingItem self
    if ← skipMark "," then return first ++ (← mappingItems fuel)
    require (← seesMark "\x7d")
    return first

def curlyPattern : Parser Tree := do
  mark "\x7b"
  let tokens ← read
  let parts ← mappingItems self (tokens.size + 1)
  mark "\x7d"
  return part parts

def closedPattern : Parser Tree := do
  match ← peek with
  | .name _ => namePattern self
  | .mark "(" => roundPattern self
  | .mark "[" => squarePattern self
  | .mark "\x7b" => curlyPattern self
  | _ => patternLiteral self

/-- A pattern: alternatives, perhaps bound to a name. -/
def casePattern : Parser Tree := do
  let first ← closedPattern self
  let rest ← many (mark "|" *> closedPattern self)
  if ← seesWord "as" then
    advance
    captureName
  return part (first :: rest)

/-- The pattern of a case, which may be a sequence without brackets. -/
def topPattern : Parser Tree := do
  let (first, starred) ← sequenceItem self
  if ← skipMark "," then
    let rest ← maybe (listed (sequenceItem self))
    return part (first :: ((rest.map fun r => r.1.map Prod.fst).getD []))
  require (!starred)
  return first

end SourceAudit.Code
