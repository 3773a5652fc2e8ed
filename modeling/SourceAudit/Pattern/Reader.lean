/-
The written form of patterns: alternatives, groups, character sets, repetition
marks, the usual classes, and `(?i)` in front to ignore case.
-/
import SourceAudit.Pattern.Basic

namespace SourceAudit.Pattern

/-- The entry a backslash and a letter stand for in a set. -/
def escapedItem (c : Char) : SetItem :=
  if c == 's' then .blank
  else if c == 'S' then .notBlank
  else if c == 'd' then .digit
  else if c == 'D' then .notDigit
  else if c == 'w' then .word
  else if c == 'W' then .notWord
  else if c == 'n' then .char '\n'
  else if c == 't' then .char '\t'
  else if c == 'r' then .char '\r'
  else .char c

/-- The expression a backslash and a letter stand for outside a set. -/
def escapedExpr (c : Char) : Expr :=
  if c == 'b' then .wordEdge else .set false [escapedItem c]

/-- One entry at the front of a set, and what follows it. -/
def readSetItem : List Char → Option (SetItem × List Char)
  | '\\' :: c :: rest => some (escapedItem c, rest)
  | c :: '-' :: d :: rest =>
    if d == ']' then some (.char c, '-' :: d :: rest) else some (.range c d, rest)
  | c :: rest => some (.char c, rest)
  | [] => none

def readSetItems : Nat → List SetItem → List Char → Option (List SetItem × List Char)
  | 0, _, _ => none
  | fuel + 1, done, cs =>
    match cs with
    | ']' :: rest => if done.isEmpty then none else some (done.reverse, rest)
    | _ =>
      match readSetItem cs with
      | some (item, rest) => readSetItems fuel (item :: done) rest
      | none => none

def readSet (cs : List Char) : Option (Expr × List Char) :=
  match cs with
  | '^' :: rest => (readSetItems (rest.length + 1) [] rest).map fun (items, r) => (.set true items, r)
  | _ => (readSetItems (cs.length + 1) [] cs).map fun (items, r) => (.set false items, r)

def readCount (cs : List Char) : Option Nat × List Char :=
  match cs.takeWhile Char.isDigit with
  | [] => (none, cs)
  | ds => (some (ds.foldl (fun n d => n * 10 + (d.toNat - 0x30)) 0), cs.dropWhile Char.isDigit)

/-- The bounds of a repetition mark at the front of a text. -/
def readBounds : List Char → Option ((Nat × Option Nat) × List Char)
  | '*' :: rest => some ((0, none), rest)
  | '+' :: rest => some ((1, none), rest)
  | '?' :: rest => some ((0, some 1), rest)
  | '\x7b' :: rest =>
    match readCount rest with
    | (some least, '\x7d' :: after) => some ((least, some least), after)
    | (least, ',' :: more) =>
      match readCount more with
      | (most, '\x7d' :: after) =>
        if least.isNone && most.isNone then none else some ((least.getD 0, most), after)
      | _ => none
    | _ => none
  | _ => none

/-- Puts the repetition mark at the front of a text, if there is one, on an
expression. -/
def readRepetition (body : Expr) (cs : List Char) : Expr × List Char :=
  match readBounds cs with
  | some ((least, most), rest) => (.repeated body least most, rest)
  | none => (body, cs)

mutual

/-- Alternatives up to a closing bracket or the end; `index` is the number of
groups opened so far. -/
def readAlternatives : Nat → Nat → List Char → Option (Expr × Nat × List Char)
  | 0, _, _ => none
  | fuel + 1, index, cs =>
    match readSequence fuel index .empty cs with
    | some (left, opened, '|' :: rest) =>
      match readAlternatives fuel opened rest with
      | some (right, opened, after) => some (.alt left right, opened, after)
      | none => none
    | other => other

/-- What follows one another up to a bar, a closing bracket or the end. -/
def readSequence : Nat → Nat → Expr → List Char → Option (Expr × Nat × List Char)
  | 0, _, _, _ => none
  | fuel + 1, index, done, cs =>
    let joined (e : Expr) : Expr :=
      match done with
      | .empty => e
      | _ => .seq done e
    match cs with
    | [] => some (done, index, [])
    | '|' :: _ => some (done, index, cs)
    | ')' :: _ => some (done, index, cs)
    | '(' :: '?' :: '!' :: rest =>
      match readAlternatives fuel index rest with
      | some (body, opened, ')' :: after) =>
        readSequence fuel opened (joined (.notAhead body)) after
      | _ => none
    | '(' :: '?' :: ':' :: rest =>
      match readAlternatives fuel index rest with
      | some (body, opened, ')' :: after) =>
        let (e, after) := readRepetition body after
        readSequence fuel opened (joined e) after
      | _ => none
    | '(' :: rest =>
      match readAlternatives fuel (index + 1) rest with
      | some (body, opened, ')' :: after) =>
        let (e, after) := readRepetition (.group (index + 1) body) after
        readSequence fuel opened (joined e) after
      | _ => none
    | '[' :: rest =>
      match readSet rest with
      | some (body, after) =>
        let (e, after) := readRepetition body after
        readSequence fuel index (joined e) after
      | none => none
    | '\\' :: c :: rest =>
      let (e, after) := readRepetition (escapedExpr c) rest
      readSequence fuel index (joined e) after
    | '.' :: rest =>
      let (e, after) := readRepetition .any rest
      readSequence fuel index (joined e) after
    | '^' :: rest => readSequence fuel index (joined .start) rest
    | '$' :: rest => readSequence fuel index (joined .stop) rest
    | c :: rest =>
      let (e, after) := readRepetition (.set false [.char c]) rest
      readSequence fuel index (joined e) after

end

def readExpr? (cs : List Char) : Option Expr :=
  match readAlternatives (2 * cs.length + 2) 0 cs with
  | some (e, _, []) => some e
  | _ => none

def read? (text : String) : Option Pattern :=
  match text.toList with
  | '(' :: '?' :: 'i' :: ')' :: rest => (readExpr? rest).map (⟨true, ·⟩)
  | cs => (readExpr? cs).map (⟨false, ·⟩)

def never : Pattern :=
  ⟨false, .set false []⟩

/-- The pattern that a text writes; a text that writes none matches nothing. -/
def of (text : String) : Pattern :=
  (read? text).getD never

def ofIgnoringCase (text : String) : Pattern :=
  { of text with ignoreCase := true }

end SourceAudit.Pattern
