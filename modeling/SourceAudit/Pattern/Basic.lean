/-
Text patterns and what it is to match one.

A pattern is tried at a spot of a line. Where several ways of matching exist the
order of preference is fixed: the left alternative before the right one, one
more repetition before stopping. `Expr.run` hands each way, in that order, to a
continuation and answers with the first that the continuation accepts.
-/
import SourceAudit.Text.Case
import SourceAudit.Text.Word

namespace SourceAudit.Pattern

-- ========================================================== characters

/-- One entry of a character set. -/
inductive SetItem where
  | char (c : Char)
  | range (first last : Char)
  | blank
  | notBlank
  | digit
  | notDigit
  | word
  | notWord
  deriving DecidableEq, Repr

/-- The characters that count as one when case is ignored, as far as ranges of
ASCII letters can tell. -/
def variants (c : Char) : List Char :=
  let small := Text.foldChar c
  let plain := if small.toNat == 0x131 then 'i' else if small.toNat == 0x17F then 's' else small
  [small, plain, plain.toUpper]

def SetItem.holds (ignoreCase : Bool) (c : Char) : SetItem → Bool
  | .char d => if ignoreCase then Text.agreesIgnoringCase d c else d == c
  | .range first last =>
    if ignoreCase then (variants c).any fun v => first ≤ v && v ≤ last
    else first ≤ c && c ≤ last
  | .blank => Text.isBlank c
  | .notBlank => !Text.isBlank c
  | .digit => Text.isDigit c
  | .notDigit => !Text.isDigit c
  | .word => Text.isWord c
  | .notWord => !Text.isWord c

-- ========================================================= expressions

/-- The expression of a pattern. -/
inductive Expr where
  | empty
  | any
  | set (negated : Bool) (items : List SetItem)
  | seq (first second : Expr)
  | alt (left right : Expr)
  | repeated (body : Expr) (least : Nat) (most : Option Nat)
  | group (index : Nat) (body : Expr)
  | notAhead (body : Expr)
  | start
  | stop
  | wordEdge
  deriving Repr

/-- A spot in a text: the character before it, what follows, how much that is,
and the groups matched so far, the latest first. -/
structure Spot where
  before : Option Char
  rest : List Char
  left : Nat
  groups : List (Nat × List Char)

def Spot.ofText (cs : List Char) : Spot :=
  ⟨none, cs, cs.length, []⟩

def Spot.advance (s : Spot) (c : Char) (rest : List Char) : Spot :=
  ⟨some c, rest, s.left - 1, s.groups⟩

def Spot.atWordEdge (s : Spot) : Bool :=
  s.before.any Text.isWord != s.rest.head?.any Text.isWord

def one (test : Char → Bool) (k : Spot → Option α) (s : Spot) : Option α :=
  match s.rest with
  | [] => none
  | c :: rest => if test c then k (s.advance c rest) else none

/-- Repetitions of `step`: first up to the least number, then as many more as
there are, each of which must move on, up to the greatest number. -/
def repeatFrom (step : (Spot → Option α) → Spot → Option α) (least : Nat) (most : Option Nat)
    (k : Spot → Option α) : Nat → Nat → Spot → Option α
  | 0, count, s => if least ≤ count then k s else none
  | fuel + 1, count, s =>
    if count < least then step (repeatFrom step least most k fuel (count + 1)) s
    else if most.any (· ≤ count) then k s
    else
      let further (t : Spot) : Option α :=
        if t.left < s.left then repeatFrom step least most k fuel (count + 1) t else none
      match step further s with
      | some found => some found
      | none => k s

/-- Hands each way of matching at a spot to the continuation, in the order of
preference, and gives the first answer. -/
def Expr.run (ignoreCase : Bool) : Expr → (Spot → Option α) → Spot → Option α
  | .empty, k, s => k s
  | .any, k, s => one (· != '\n') k s
  | .set negated items, k, s =>
    one (fun c => (items.any (SetItem.holds ignoreCase c)) != negated) k s
  | .seq p q, k, s => p.run ignoreCase (q.run ignoreCase k) s
  | .alt p q, k, s =>
    match p.run ignoreCase k s with
    | some found => some found
    | none => q.run ignoreCase k s
  | .repeated p least most, k, s =>
    repeatFrom (fun j t => p.run ignoreCase j t) least most k (s.left + least + 1) 0 s
  | .group index p, k, s =>
    p.run ignoreCase
      (fun t => k { t with groups := (index, s.rest.take (s.left - t.left)) :: t.groups }) s
  | .notAhead p, k, s =>
    match p.run ignoreCase some s with
    | some _ => none
    | none => k s
  | .start, k, s => if s.before.isNone then k s else none
  | .stop, k, s =>
    match s.rest with
    | [] | ['\n'] => k s
    | _ => none
  | .wordEdge, k, s => if s.atWordEdge then k s else none

end SourceAudit.Pattern

namespace SourceAudit

/-- A pattern: an expression, and whether letters of either case agree. -/
structure Pattern where
  ignoreCase : Bool
  expr : Pattern.Expr
  deriving Repr

namespace Pattern

/-- What a pattern matched: the text before, the text itself, what follows, and
its groups. -/
structure Found where
  skipped : Nat
  text : List Char
  after : Spot
  groups : List (Nat × List Char)

/-- The text of a group of a match, if the group took part. -/
def Found.group? (f : Found) (index : Nat) : Option String :=
  (f.groups.find? (·.1 == index)).map fun g => String.ofList g.2

def matchAt (p : Pattern) (s : Spot) : Option Found :=
  (p.expr.run p.ignoreCase some { s with groups := [] }).map fun t =>
    ⟨0, s.rest.take (s.left - t.left), t, t.groups⟩

/-- The first match at a spot or later, with as much text as `fuel` to pass over. -/
def searchFrom (p : Pattern) (skipped : Nat) : Nat → Spot → Option Found
  | 0, s => (p.matchAt s).map fun f => { f with skipped }
  | fuel + 1, s =>
    match p.matchAt s with
    | some f => some { f with skipped }
    | none =>
      match s.rest with
      | [] => none
      | c :: rest => searchFrom p (skipped + 1) fuel (s.advance c rest)

def search (p : Pattern) (text : String) : Option Found :=
  let s := Spot.ofText text.toList
  p.searchFrom 0 s.left s

def occursIn (p : Pattern) (text : String) : Bool :=
  (p.search text).isSome

/-- The matches in a text from left to right, none inside another. Looking on
stops at a match that is empty. -/
def allFrom (p : Pattern) : Nat → Spot → List Found
  | 0, _ => []
  | fuel + 1, s =>
    match p.searchFrom 0 s.left s with
    | none => []
    | some f => if f.text.isEmpty then [f] else f :: allFrom p fuel f.after

/-- The matches in a text from left to right, none inside another. -/
def all (p : Pattern) (text : String) : List Found :=
  let s := Spot.ofText text.toList
  p.allFrom (s.left + 1) s

end Pattern

end SourceAudit
