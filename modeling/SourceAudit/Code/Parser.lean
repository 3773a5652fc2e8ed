/-
The means of parsing: a parser reads tokens from a spot and moves the spot, or
fails and leaves it where it was.

The grammar is recursive, so its rules are written against a table of goals
(`Goal`) that says how to read each nested part; `Grammar` ties the knot.
-/
import SourceAudit.Code.Token
import SourceAudit.Code.Tree
import SourceAudit.Text.Normal

namespace SourceAudit.Code

/-- A parser of tokens. -/
abbrev Parser := StateT Nat (ReaderT (Array Token) Option)

/-- The parts of the grammar that contain one another. -/
inductive Goal where
  | expression
  | inversion
  | operand
  /-- An operand of a sign. -/
  | factor
  /-- An atom with the members, calls and subscripts that follow it. -/
  | primary
  /-- Expressions with commas between them. -/
  | expressions
  /-- The body of a compound statement. -/
  | block
  | pattern
  deriving DecidableEq, Repr

/-- How each goal is read. -/
abbrev Rules := Goal → Parser Tree

namespace Parser

def peek : Parser Token := do
  let tokens ← read
  return tokens[← get]?.getD .finish

def peekSecond : Parser Token := do
  let tokens ← read
  return tokens[(← get) + 1]?.getD .finish

def advance : Parser Unit :=
  modify (· + 1)

def sees (t : Token) : Parser Bool := do
  return (← peek) == t

def seesMark (m : String) : Parser Bool :=
  sees (.mark m)

/-- Whether the next token is the given reserved word. -/
def seesWord (w : String) : Parser Bool :=
  sees (.keyword w)

def token (t : Token) : Parser Unit := do
  if ← sees t then advance else failure

def mark (m : String) : Parser Unit :=
  token (.mark m)

def word (w : String) : Parser Unit :=
  token (.keyword w)

/-- Takes the given word, which is not reserved. -/
def softWord (w : String) : Parser Unit :=
  token (.name w)

/-- Takes the mark if it comes next and says whether it did. -/
def skipMark (m : String) : Parser Bool := do
  if ← seesMark m then
    advance
    return true
  return false

/-- Takes an identifier. Spellings that differ only in compatible forms of the
same characters are one identifier. -/
def identifier : Parser String := do
  match ← peek with
  | .name spelling =>
    advance
    return Text.normalForm spelling
  | _ => failure

def maybe {α : Type} (p : Parser α) : Parser (Option α) :=
  (some <$> p) <|> pure none

/-- Reads with `p` as often as it goes, `fuel` times at most. -/
def manyWithin {α : Type} (p : Parser α) : Nat → Parser (List α)
  | 0 => pure []
  | fuel + 1 => do
    match ← maybe p with
    | some a => return a :: (← manyWithin p fuel)
    | none => return []

/-- Reads with `p` as often as it goes. Each round takes a token, so the number
of tokens left bounds the rounds. -/
def many {α : Type} (p : Parser α) : Parser (List α) := do
  let tokens ← read
  manyWithin p (tokens.size - (← get) + 1)

def many1 {α : Type} (p : Parser α) : Parser (List α) := do
  return (← p) :: (← many p)

/-- Items with commas between them, and whether a comma ends them. -/
def listed {α : Type} (p : Parser α) : Parser (List α × Bool) := do
  let first ← p
  let rest ← many (mark "," *> p)
  return (first :: rest, ← skipMark ",")

/-- Items with commas between them and none after the last. -/
def separated {α : Type} (p : Parser α) : Parser (List α) := do
  return (← p) :: (← many (mark "," *> p))

def require (b : Bool) : Parser Unit :=
  if b then pure () else failure

end Parser

end SourceAudit.Code
