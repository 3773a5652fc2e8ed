/-
The tokens of a YAML text.

Indentation opens and closes blocks. A key is only known as one when its colon
comes: until then the token that may start it is kept in mind, and the marks of
a key are put in front of it at the end.
-/
import SourceAudit.Fault

namespace SourceAudit.Value.Yaml

-- ============================================================== cursor

/-- A place in a text. The end of the text reads as the null character. -/
structure Cursor where
  rest : List Char
  index : Nat
  line : Nat
  column : Nat

def endMark : Char := '\x00'

def isBreak (c : Char) : Bool :=
  c == '\r' || c == '\n' || c == '\x85' || c == '\u2028' || c == '\u2029'

def isLineEnd (c : Char) : Bool :=
  c == endMark || isBreak c

/-- A space, the end of a line or of the text. -/
def isGap (c : Char) : Bool :=
  c == ' ' || isLineEnd c

/-- A space, a tab, the end of a line or of the text. -/
def isBlank (c : Char) : Bool :=
  c == '\t' || isGap c

/-- A character of a name: of an anchor, a directive or a tag handle. -/
def isNameChar (c : Char) : Bool :=
  c.isAlphanum || c == '-' || c == '_'

namespace Cursor

def ahead (n : Nat) (c : Cursor) : Char :=
  (c.rest[n]?).getD endMark

def peek (c : Cursor) : Char :=
  c.ahead 0

def step (c : Cursor) : Cursor :=
  match c.rest with
  | [] => c
  | x :: rest =>
    if x == '\r' && rest.head? == some '\n' then ⟨rest, c.index + 1, c.line, c.column + 1⟩
    else if isBreak x then ⟨rest, c.index + 1, c.line + 1, 0⟩
    else if x == '\ufeff' then ⟨rest, c.index + 1, c.line, c.column⟩
    else ⟨rest, c.index + 1, c.line, c.column + 1⟩

def skip : Nat → Cursor → Cursor
  | 0, c => c
  | n + 1, c => skip n c.step

/-- The characters that meet a condition, and the place after them. -/
def span (p : Char → Bool) (c : Cursor) : List Char × Cursor :=
  let taken := c.rest.takeWhile p
  (taken, c.skip taken.length)

/-- The place after the characters that meet a condition. -/
def pass (p : Char → Bool) (c : Cursor) : Cursor :=
  (c.span p).2

/-- Passes the end of a line; what it stands for in a text. -/
def lineBreak (c : Cursor) : List Char × Cursor :=
  let x := c.peek
  if x == '\r' && c.ahead 1 == '\n' then (['\n'], c.skip 2)
  else if x == '\r' || x == '\n' || x == '\x85' then (['\n'], c.step)
  else if x == '\u2028' || x == '\u2029' then ([x], c.step)
  else ([], c)

/-- Whether a line that parts documents starts here. -/
def atDocumentMark (c : Cursor) : Bool :=
  (c.rest.take 3 == ['-', '-', '-'] || c.rest.take 3 == ['.', '.', '.']) && isBlank (c.ahead 3)

def passComment (c : Cursor) : Cursor :=
  if c.peek == '#' then c.pass fun x => !isLineEnd x else c

/-- Passes spaces and a comment, after which the line has to end. -/
def passLine (c : Cursor) : Outcome Cursor :=
  let c := (c.pass (· == ' ')).passComment
  if isLineEnd c.peek then .ok c.lineBreak.2 else .error .badYaml

end Cursor

-- ============================================================== tokens

/-- What a directive says. -/
inductive Directive where
  | version (major : Nat)
  | tagHandle (handle start : String)
  | other

/-- A token of a YAML text. -/
inductive Token where
  | blockList
  | blockMap
  | blockEnd
  | dash
  | key
  | colon
  | comma
  | openList
  | closeList
  | openMap
  | closeMap
  | documentStart
  | documentEnd
  | directive (d : Directive)
  | anchor (name : String)
  | alias (name : String)
  | tag (handle : Option String) (suffix : String)
  | scalar (text : String) (isPlain : Bool)

def scanName (c : Cursor) : Outcome (String × Cursor) :=
  match c.span isNameChar with
  | ([], _) => .error .badYaml
  | (name, c) => .ok (String.ofList name, c)

/-- The name of an anchor or an alias, after its mark. -/
def scanAnchor (c : Cursor) : Outcome (String × Cursor) := do
  let (name, c) ← scanName c
  let x := c.peek
  if isBlank x || "?:,]\x7d%@\x60".toList.contains x then return (name, c) else .error .badYaml

-- ---------------------------------------------------------------- tags

/-- A handle of a tag: one mark of exclamation, or a name between two. -/
def scanHandle (c : Cursor) : Outcome (String × Cursor) :=
  if c.peek != '!' then .error .badYaml
  else if c.ahead 1 == ' ' then .ok ("!", c.step)
  else
    let (name, after) := c.step.span isNameChar
    if after.peek == '!' then .ok (String.ofList ('!' :: name ++ ['!']), after.step)
    else .error .badYaml

def isAddressChar (c : Char) : Bool :=
  c.isAlphanum || "-;/?:@&=+$,_.!~*'()[]%".toList.contains c

/-- An address with its bytes written as numbers replaced by them. -/
def addressBytes : List Char → Option (List UInt8)
  | [] => some []
  | '%' :: a :: b :: rest => do
    let n ← Text.hexNumber? [a, b]
    return UInt8.ofNat n :: (← addressBytes rest)
  | '%' :: _ => none
  | c :: rest => do return UInt8.ofNat c.toNat :: (← addressBytes rest)

def scanAddress (c : Cursor) : Outcome (String × Cursor) :=
  match c.span isAddressChar with
  | ([], _) => .error .badYaml
  | (chars, c) =>
    match (addressBytes chars).map Text.decode with
    | some (.ok address) => .ok (address, c)
    | _ => .error .badYaml

/-- Whether a second mark of exclamation comes before the next gap. -/
def hasHandle (c : Cursor) : Bool :=
  (c.rest.takeWhile fun x => !isGap x).contains '!'

def scanTag (c : Cursor) : Outcome (Token × Cursor) := do
  let (token, c) ←
    if c.ahead 1 == '<' then do
      let (suffix, c) ← scanAddress (c.skip 2)
      if c.peek == '>' then pure (Token.tag none suffix, c.step) else .error .badYaml
    else if isBlank (c.ahead 1) then pure (Token.tag none "!", c.step)
    else if hasHandle c.step then do
      let (handle, c) ← scanHandle c
      let (suffix, c) ← scanAddress c
      pure (Token.tag (some handle) suffix, c)
    else do
      let (suffix, c) ← scanAddress c.step
      pure (Token.tag (some "!") suffix, c)
  if isGap c.peek then return (token, c) else .error .badYaml

-- ---------------------------------------------------------- directives

def scanDecimal (c : Cursor) : Outcome (Nat × Cursor) :=
  match c.span Char.isDigit with
  | ([], _) => .error .badYaml
  | (digits, c) => .ok (digits.foldl (fun n d => 10 * n + (d.toNat - '0'.toNat)) 0, c)

def scanDirective (c : Cursor) : Outcome (Directive × Cursor) := do
  let (name, c) ← scanName c
  if !isGap c.peek then .error .badYaml
  let (d, c) ←
    if name == "YAML" then do
      let (major, c) ← scanDecimal (c.pass (· == ' '))
      if c.peek != '.' then .error .badYaml
      let (_, c) ← scanDecimal c.step
      if isGap c.peek then pure (Directive.version major, c) else .error .badYaml
    else if name == "TAG" then do
      let (handle, c) ← scanHandle (c.pass (· == ' '))
      if c.peek != ' ' then .error .badYaml
      let (start, c) ← scanAddress (c.pass (· == ' '))
      if isGap c.peek then pure (Directive.tagHandle handle start, c) else .error .badYaml
    else pure (Directive.other, c.pass fun x => !isLineEnd x)
  return (d, ← c.passLine)

-- ------------------------------------------------------- block scalars

/-- What becomes of the line ends after a block scalar. -/
inductive Chomp where
  | strip
  | clip
  | keep

/-- The sign for the line ends. -/
def scanChomp (c : Cursor) : Option Chomp × Cursor :=
  if c.peek == '+' then (some .keep, c.step)
  else if c.peek == '-' then (some .strip, c.step)
  else (none, c)

def scanIncrement (c : Cursor) : Outcome (Option Nat × Cursor) :=
  if c.peek == '0' then .error .badYaml
  else if c.peek.isDigit then .ok (some (c.peek.toNat - '0'.toNat), c.step)
  else .ok (none, c)

/-- The two signs of a block scalar, in any order. -/
def scanBlockSigns (c : Cursor) : Outcome (Chomp × Option Nat × Cursor) := do
  let (chomp, c) := scanChomp c
  let (increment, c) ← scanIncrement c
  let (chomp, c) := match chomp with
    | some how => (how, c)
    | none => let (later, c) := if increment.isSome then scanChomp c else (none, c)
              (later.getD .clip, c)
  if isGap c.peek then return (chomp, increment, c) else .error .badYaml

def passIndent (column : Nat) : Nat → Cursor → Cursor
  | 0, c => c
  | fuel + 1, c =>
    if c.column < column && c.peek == ' ' then passIndent column fuel c.step else c

/-- The empty lines before the next line of a block scalar. -/
def blockBreaks (column : Nat) : Nat → Cursor → List Char → List Char × Cursor
  | 0, c, done => (done, c)
  | fuel + 1, c, done =>
    let c := passIndent column c.rest.length c
    if isBreak c.peek then
      let (b, c) := c.lineBreak
      blockBreaks column fuel c (done ++ b)
    else (done, c)

/-- The empty lines at the start of a block scalar, and its widest column. -/
def blockStart : Nat → Cursor → List Char → Nat → List Char × Nat × Cursor
  | 0, c, done, widest => (done, widest, c)
  | fuel + 1, c, done, widest =>
    if c.peek == ' ' then blockStart fuel c.step done (max widest c.step.column)
    else if isBreak c.peek then
      let (b, c) := c.lineBreak
      blockStart fuel c (done ++ b) widest
    else (done, widest, c)

/-- The lines of a block scalar: the pieces so far (the last first), the last
line end and the empty lines after it. -/
def blockLines (folded : Bool) (column : Nat) : Nat → Cursor → List (List Char) → List Char →
    List (List Char) × List Char × List Char × Cursor
  | 0, c, pieces, breaks => (pieces, [], breaks, c)
  | fuel + 1, c, pieces, breaks =>
    if c.column == column && c.peek != endMark then
      let isText := c.peek != ' ' && c.peek != '\t'
      let (line, c) := c.span fun x => !isLineEnd x
      let (lineEnd, c) := c.lineBreak
      let pieces := line :: breaks :: pieces
      let (breaks, c) := blockBreaks column (c.rest.length + 1) c []
      if c.column == column && c.peek != endMark then
        let join :=
          if folded && lineEnd == ['\n'] && isText && c.peek != ' ' && c.peek != '\t' then
            (if breaks.isEmpty then [' '] else [])
          else lineEnd
        blockLines folded column fuel c (join :: pieces) breaks
      else (pieces, lineEnd, breaks, c)
    else (pieces, [], breaks, c)

/-- A block scalar, at its mark, in a block of the given indentation. -/
def scanBlock (indent : Int) (c : Cursor) : Outcome (String × Cursor) := do
  let folded := c.peek == '>'
  let (chomp, increment, c) ← scanBlockSigns c.step
  let c ← c.passLine
  let least := (max (indent + 1) 1).toNat
  let fuel := c.rest.length + 1
  let (column, breaks, c) := match increment with
    | none =>
      let (breaks, widest, c) := blockStart fuel c [] 0
      (max least widest, breaks, c)
    | some n =>
      let column := least + n - 1
      let (breaks, c) := blockBreaks column fuel c []
      (column, breaks, c)
  let (pieces, lineEnd, breaks, c) := blockLines folded column fuel c [] breaks
  let tail := match chomp with
    | .strip => []
    | .clip => lineEnd
    | .keep => lineEnd ++ breaks
  return (String.ofList (pieces.reverse.flatten ++ tail), c)

-- ------------------------------------------------------ quoted scalars

def escape? : Char → Option Char
  | '0' => some '\x00'
  | 'a' => some '\x07'
  | 'b' => some '\x08'
  | 't' => some '\t'
  | '\t' => some '\t'
  | 'n' => some '\n'
  | 'v' => some '\x0b'
  | 'f' => some '\x0c'
  | 'r' => some '\r'
  | 'e' => some '\x1b'
  | ' ' => some ' '
  | '"' => some '"'
  | '\\' => some '\\'
  | '/' => some '/'
  | 'N' => some '\x85'
  | '_' => some '\xa0'
  | 'L' => some '\u2028'
  | 'P' => some '\u2029'
  | _ => none

/-- How many digits the escape of a code point has. -/
def escapeDigits? : Char → Option Nat
  | 'x' => some 2
  | 'u' => some 4
  | 'U' => some 8
  | _ => none

/-- The empty lines inside a quoted scalar; a line that parts documents may not
stand there. -/
def quotedBreaks : Nat → Cursor → List Char → Outcome (List Char × Cursor)
  | 0, c, done => .ok (done, c)
  | fuel + 1, c, done =>
    if c.atDocumentMark then .error .badYaml
    else
      let c := c.pass fun x => x == ' ' || x == '\t'
      if isBreak c.peek then
        let (b, c) := c.lineBreak
        quotedBreaks fuel c (done ++ b)
      else .ok (done, c)

/-- An escape inside double quotes, after the backslash. -/
def scanEscape (c : Cursor) : Outcome (List Char × Cursor) :=
  match escape? c.peek with
  | some x => .ok ([x], c.step)
  | none =>
    match escapeDigits? c.peek with
    | some n =>
      let digits := c.step.rest.take n
      match if digits.length == n then Text.hexNumber? digits else none with
      | none => .error .badYaml
      | some code =>
        if 0x110000 ≤ code then .error (.badData "chr() arg not in range(0x110000)")
        else .ok ([Char.ofNat code], c.step.skip n)
    | none =>
      if isBreak c.peek then
        let (_, c) := c.lineBreak
        quotedBreaks (c.rest.length + 1) c []
      else .error .badYaml

/-- Spaces inside a quoted scalar: a single line end is a space, of several one
is left out. -/
def quotedSpaces (c : Cursor) : Outcome (List Char × Cursor) := do
  let (spaces, c) := c.span fun x => x == ' ' || x == '\t'
  if c.peek == endMark then .error .badYaml
  else if isBreak c.peek then
    let (b, c) := c.lineBreak
    let (breaks, c) ← quotedBreaks (c.rest.length + 1) c []
    if b != ['\n'] then return (b ++ breaks, c)
    else return (if breaks.isEmpty then [' '] else breaks, c)
  else return (spaces, c)

/-- The rest of a quoted scalar, the pieces so far last first. -/
def scanQuotedFrom (quote : Char) : Nat → Cursor → List (List Char) →
    Outcome (List (List Char) × Cursor)
  | 0, _, _ => .error .badYaml
  | fuel + 1, c, pieces => do
    let x := c.peek
    if x == quote then
      if quote == '\'' && c.ahead 1 == '\'' then
        scanQuotedFrom quote fuel (c.skip 2) (['\''] :: pieces)
      else return (pieces, c.step)
    else if quote == '"' && x == '\\' then
      let (piece, c) ← scanEscape c.step
      scanQuotedFrom quote fuel c (piece :: pieces)
    else if isBlank x then
      let (piece, c) ← quotedSpaces c
      scanQuotedFrom quote fuel c (piece :: pieces)
    else scanQuotedFrom quote fuel c.step ([x] :: pieces)

def scanQuoted (c : Cursor) : Outcome (String × Cursor) := do
  let (pieces, c) ← scanQuotedFrom c.peek (c.rest.length + 1) c.step []
  return (String.ofList pieces.reverse.flatten, c)

-- ------------------------------------------------------- plain scalars

/-- Whether a plain scalar ends at this character. -/
def endsPlain (inFlow : Bool) (x next : Char) : Bool :=
  isBlank x ||
    (x == ':' && (isBlank next || (inFlow && ",[]\x7b\x7d".toList.contains next))) ||
    (inFlow && ",?[]\x7b\x7d".toList.contains x)

/-- The characters of a plain scalar up to the next blank. -/
def plainWord (inFlow : Bool) : List Char → List Char
  | [] => []
  | x :: rest =>
    if endsPlain inFlow x (rest.head?.getD endMark) then [] else x :: plainWord inFlow rest

/-- The empty lines inside a plain scalar; none if documents part there. -/
def plainBreaks : Nat → Cursor → List Char → Option (List Char) × Cursor
  | 0, c, done => (some done, c)
  | fuel + 1, c, done =>
    if c.peek == ' ' then plainBreaks fuel c.step done
    else if isBreak c.peek then
      let (b, c) := c.lineBreak
      if c.atDocumentMark then (none, c) else plainBreaks fuel c (done ++ b)
    else (some done, c)

/-- Spaces inside a plain scalar, and whether a line ended; none if the scalar
ends with them. -/
def plainSpaces (c : Cursor) : Option (List Char) × Bool × Cursor :=
  let (spaces, c) := c.span (· == ' ')
  if isBreak c.peek then
    let (b, c) := c.lineBreak
    if c.atDocumentMark then (none, true, c)
    else
      match plainBreaks (c.rest.length + 1) c [] with
      | (none, c) => (none, true, c)
      | (some breaks, c) =>
        if b != ['\n'] then (some (b ++ breaks), true, c)
        else (some (if breaks.isEmpty then [' '] else breaks), true, c)
  else (if spaces.isEmpty then none else some spaces, false, c)

/-- A plain scalar from here on: the pieces so far (last first), the spaces to be
put before the next one, and whether a key may follow. -/
def scanPlainFrom (inFlow : Bool) (indent : Int) :
    Nat → Cursor → List (List Char) → List Char → Bool → List (List Char) × Bool × Cursor
  | 0, c, pieces, _, keyNext => (pieces, keyNext, c)
  | fuel + 1, c, pieces, spaces, keyNext =>
    if c.peek == '#' then (pieces, keyNext, c)
    else
      match plainWord inFlow c.rest with
      | [] => (pieces, keyNext, c)
      | word =>
        let pieces := word :: spaces :: pieces
        match plainSpaces (c.skip word.length) with
        | (none, ended, c) => (pieces, ended, c)
        | (some spaces, ended, c) =>
          if c.peek == '#' || (!inFlow && (c.column : Int) < indent) then (pieces, ended, c)
          else scanPlainFrom inFlow indent fuel c pieces spaces ended

/-- A plain scalar in a block of the given indentation, and whether a key may
follow it. -/
def scanPlain (inFlow : Bool) (indent : Int) (c : Cursor) : String × Bool × Cursor :=
  let (pieces, keyNext, c) := scanPlainFrom inFlow (indent + 1) (c.rest.length + 1) c [] [] false
  (String.ofList pieces.reverse.flatten, keyNext, c)

-- ============================================================= scanner

/-- A token that may turn out to start a key. -/
structure PendingKey where
  /-- The depth of flow brackets around it. -/
  level : Nat
  number : Nat
  /-- Whether only a key can stand there. -/
  isRequired : Bool
  index : Nat
  line : Nat
  column : Nat

/-- The state of a scan. -/
structure Scan where
  cursor : Cursor
  /-- The tokens so far, the last first. -/
  tokens : List Token
  count : Nat
  /-- The tokens that start a key, and whether the key starts a block. -/
  keyMarks : List (Nat × Bool)
  flow : Nat
  indent : Int
  indents : List Int
  keyAllowed : Bool
  pending : List PendingKey
  isDone : Bool

namespace Scan

def start (text : List Char) : Scan where
  cursor := ⟨text, 0, 0, 0⟩
  tokens := []
  count := 0
  keyMarks := []
  flow := 0
  indent := -1
  indents := []
  keyAllowed := true
  pending := []
  isDone := false

def emit (token : Token) (s : Scan) : Scan :=
  { s with tokens := token :: s.tokens, count := s.count + 1 }

def goTo (cursor : Cursor) (s : Scan) : Scan :=
  { s with cursor }

/-- Gives up the pending keys that do not meet a condition; one that is required
cannot be given up. -/
def keepPending (stays : PendingKey → Bool) (s : Scan) : Outcome Scan :=
  if s.pending.any fun k => !stays k && k.isRequired then .error .badYaml
  else .ok { s with pending := s.pending.filter stays }

/-- Gives up keys that are no longer on this line, or too long. -/
def dropStale (s : Scan) : Outcome Scan :=
  s.keepPending fun k => k.line == s.cursor.line && s.cursor.index - k.index ≤ 1024

/-- Gives up the key at the current depth. -/
def dropPending (s : Scan) : Outcome Scan :=
  s.keepPending fun k => k.level != s.flow

/-- Keeps in mind that the next token may start a key. -/
def savePending (s : Scan) : Outcome Scan := do
  if s.keyAllowed then
    let s ← s.dropPending
    let key : PendingKey :=
      { level := s.flow
        number := s.count
        isRequired := s.flow == 0 && s.indent == (s.cursor.column : Int)
        index := s.cursor.index
        line := s.cursor.line
        column := s.cursor.column }
    return { s with pending := key :: s.pending }
  else return s

/-- Closes the blocks that are indented further than a column. -/
def unwindFrom (column : Int) : Nat → Scan → Scan
  | 0, s => s
  | fuel + 1, s =>
    if s.indent > column then
      let s := { s with indent := s.indents.headD (-1), indents := s.indents.tail }
      unwindFrom column fuel (s.emit .blockEnd)
    else s

/-- Closes the blocks that are indented further than a column; inside flow
brackets indentation does not count. -/
def unwind (column : Int) (s : Scan) : Scan :=
  if s.flow == 0 then unwindFrom column (s.indents.length + 1) s else s

/-- Whether a block can be opened at a column, and the state inside it. -/
def openBlock (column : Nat) (s : Scan) : Bool × Scan :=
  if s.indent < column then
    (true, { s with indents := s.indent :: s.indents, indent := column })
  else (false, s)

/-- Opens a block at the cursor if it is indented further. -/
def openBlockHere (token : Token) (s : Scan) : Scan :=
  match s.openBlock s.cursor.column with
  | (true, s) => s.emit token
  | (false, s) => s

/-- Passes spaces, comments and line ends before the next token. -/
def passBlanks : Nat → Scan → Scan
  | 0, s => s
  | fuel + 1, s =>
    let c := (s.cursor.pass (· == ' ')).passComment
    match c.lineBreak with
    | ([], c) => s.goTo c
    | (_, c) => passBlanks fuel { s with cursor := c, keyAllowed := s.keyAllowed || s.flow == 0 }

/-- A bracket that opens a flow list or map. -/
def openFlow (token : Token) (s : Scan) : Outcome Scan := do
  let s ← s.savePending
  return { s with flow := s.flow + 1, keyAllowed := true, cursor := s.cursor.step }.emit token

/-- A bracket that closes a flow list or map. -/
def closeFlow (token : Token) (s : Scan) : Outcome Scan := do
  let s ← s.dropPending
  return { s with flow := s.flow - 1, keyAllowed := false, cursor := s.cursor.step }.emit token

/-- A line that starts or ends a document. -/
def documentMark (token : Token) (s : Scan) : Outcome Scan := do
  let s ← (s.unwind (-1)).dropPending
  return { s with keyAllowed := false, cursor := s.cursor.skip 3 }.emit token

/-- A dash or a question mark that starts an entry. -/
def startEntry (block token : Token) (keyAfter : Bool) (s : Scan) : Outcome Scan := do
  if s.flow == 0 && !s.keyAllowed then .error .badYaml
  let s := if s.flow == 0 then s.openBlockHere block else s
  let s ← { s with keyAllowed := keyAfter }.dropPending
  return (s.goTo s.cursor.step).emit token

/-- A colon: what was kept in mind at this depth is a key. -/
def value (s : Scan) : Outcome Scan := do
  match s.pending.find? fun k => k.level == s.flow with
  | some k =>
    let s := { s with pending := s.pending.filter fun k => k.level != s.flow }
    let (opens, s) := if s.flow == 0 then s.openBlock k.column else (false, s)
    let s := { s with keyMarks := (k.number, opens) :: s.keyMarks, keyAllowed := false }
    return (s.goTo s.cursor.step).emit .colon
  | none => s.startEntry .blockMap .colon (s.flow == 0)

/-- A token that may start a key and after which none can. -/
def keyable (scan : Cursor → Outcome (Token × Cursor)) (s : Scan) : Outcome Scan := do
  let s ← s.savePending
  let (token, c) ← scan s.cursor
  return { s with keyAllowed := false, cursor := c }.emit token

def finish (s : Scan) : Outcome Scan := do
  let s ← (s.unwind (-1)).dropPending
  return { s with isDone := true }

def startsPlain (s : Scan) : Bool :=
  let x := s.cursor.peek
  !(isBlank x || "-?:,[]\x7b\x7d#&*!|>'\"%@\x60".toList.contains x) ||
    (!isBlank (s.cursor.ahead 1) && (x == '-' || (s.flow == 0 && (x == '?' || x == ':'))))

def token (s : Scan) : Outcome Scan := do
  let c := s.cursor
  let x := c.peek
  let nextIsBlank := isBlank (c.ahead 1)
  if x == endMark then s.finish
  else if x == '%' && c.column == 0 then
    let s ← (s.unwind (-1)).dropPending
    let (d, c) ← scanDirective s.cursor.step
    return { s with keyAllowed := false, cursor := c }.emit (.directive d)
  else if c.column == 0 && c.atDocumentMark then
    s.documentMark (if x == '-' then .documentStart else .documentEnd)
  else if x == '[' then s.openFlow .openList
  else if x == '\x7b' then s.openFlow .openMap
  else if x == ']' then s.closeFlow .closeList
  else if x == '\x7d' then s.closeFlow .closeMap
  else if x == ',' then
    let s ← { s with keyAllowed := true }.dropPending
    return (s.goTo c.step).emit .comma
  else if x == '-' && nextIsBlank then s.startEntry .blockList .dash true
  else if x == '?' && (s.flow != 0 || nextIsBlank) then s.startEntry .blockMap .key (s.flow == 0)
  else if x == ':' && (s.flow != 0 || nextIsBlank) then s.value
  else if x == '*' then s.keyable fun c => do
    let (name, c) ← scanAnchor c.step
    return (.alias name, c)
  else if x == '&' then s.keyable fun c => do
    let (name, c) ← scanAnchor c.step
    return (.anchor name, c)
  else if x == '!' then s.keyable scanTag
  else if (x == '|' || x == '>') && s.flow == 0 then
    let s ← { s with keyAllowed := true }.dropPending
    let (content, c) ← scanBlock s.indent s.cursor
    return (s.goTo c).emit (.scalar content false)
  else if x == '\'' || x == '"' then s.keyable fun c => do
    let (content, c) ← scanQuoted c
    return (.scalar content false, c)
  else if s.startsPlain then
    let s ← s.savePending
    let (content, keyNext, c) := scanPlain (s.flow != 0) s.indent s.cursor
    return { s with keyAllowed := keyNext, cursor := c }.emit (.scalar content true)
  else .error .badYaml

def next (s : Scan) : Outcome Scan := do
  let c := s.cursor
  let s := if c.index == 0 && c.peek == '\ufeff' then s.goTo c.step else s
  let s ← (passBlanks (s.cursor.rest.length + 1) s).dropStale
  (s.unwind s.cursor.column).token

def run : Nat → Scan → Outcome Scan
  | 0, _ => .error .badYaml
  | fuel + 1, s => if s.isDone then .ok s else do run fuel (← s.next)

/-- The tokens of a scan in order, keys with their marks in front. -/
def result (s : Scan) : List Token :=
  s.tokens.reverse.zipIdx.flatMap fun (token, number) =>
    match s.keyMarks.find? fun m => m.1 == number with
    | some (_, true) => [.blockMap, .key, token]
    | some (_, false) => [.key, token]
    | none => [token]

end Scan

def isAllowed (c : Char) : Bool :=
  c == '\t' || c == '\n' || c == '\r' || (' ' ≤ c && c ≤ '~') || c == '\x85' ||
    ('\xa0' ≤ c && c ≤ '\ufffd') || 0x10000 ≤ c.toNat

def tokens (text : List Char) : Outcome (List Token) := do
  if text.all isAllowed then
    return (← Scan.run (text.length + 2) (Scan.start text)).result
  else .error .badYaml

end SourceAudit.Value.Yaml
