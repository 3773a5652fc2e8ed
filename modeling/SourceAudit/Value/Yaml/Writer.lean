/-
A value as YAML text in block style.

Fields stand in the order of their names, lists not indented under their field,
long scalars on several lines. A text is written without quotes where it reads
back as the same text, in single quotes where that is enough, and in double
quotes, ASCII only, otherwise.
-/
import SourceAudit.Value.Yaml.Scalar

namespace SourceAudit.Value.Yaml

-- ============================================================== output

def lineWidth : Nat := 80

/-- What has been written: the characters (last first), the column, whether the
last one is a blank, and whether the line holds only indentation and marks. -/
structure Output where
  chars : List Char
  column : Nat
  afterBlank : Bool
  atStart : Bool

namespace Output

def empty : Output := ⟨[], 0, true, true⟩

def put (cs : List Char) (o : Output) : Output :=
  { o with chars := cs.reverse ++ o.chars, column := o.column + cs.length }

def breakLine (mark : Char) (o : Output) : Output :=
  ⟨mark :: o.chars, 0, true, true⟩

/-- Writes a mark of the format, after a blank if it needs one. `keepsStart` says
that what follows may still be the start of a line. -/
def mark (cs : List Char) (needsBlank keepsStart : Bool) (o : Output) : Output :=
  let o := o.put (if o.afterBlank || !needsBlank then cs else ' ' :: cs)
  { o with afterBlank := false, atStart := o.atStart && keepsStart }

/-- Goes to a column, on a new line unless this one has only led there. -/
def indent (column : Nat) (o : Output) : Output :=
  let o :=
    if !o.atStart || column < o.column || (o.column == column && !o.afterBlank) then
      o.breakLine '\n'
    else o
  if o.column < column then
    { o.put (List.replicate (column - o.column) ' ') with afterBlank := true }
  else o

end Output

-- ============================================================= scalars

/-- A character that ends a line inside a text. -/
def isTextBreak (c : Char) : Bool :=
  c == '\n' || c == '\x85' || c == '\u2028' || c == '\u2029'

/-- A blank, a line end or the end of the text. -/
def isBlankOrEnd : Option Char → Bool
  | none => true
  | some c => c == '\x00' || c == ' ' || c == '\t' || c == '\r' || isTextBreak c

/-- What a text holds that limits how it can be written. -/
structure Traits where
  /-- A character that means something to the format at its place. -/
  indicators : Bool
  breaks : Bool
  /-- A character that only an escape can write. -/
  special : Bool
  /-- A space at the start of a line after the first. -/
  breakSpace : Bool
  /-- A space at the end of a line before the last. -/
  spaceBreak : Bool

/-- Whether a character at a place in a text means something to the format. -/
def isIndicator (isFirst afterBlank beforeBlank : Bool) (c : Char) : Bool :=
  if isFirst then
    "#,[]\x7b\x7d&*!|>'\"%@\x60".toList.contains c ||
      ((c == '?' || c == ':' || c == '-') && beforeBlank)
  else (c == ':' && beforeBlank) || (c == '#' && afterBlank)

/-- The traits of the rest of a text after a character. -/
def traitsFrom (previous : Option Char) : List Char → Traits
  | [] => ⟨false, false, false, false, false⟩
  | c :: rest =>
    let t := traitsFrom (some c) rest
    { indicators := t.indicators ||
        isIndicator previous.isNone (isBlankOrEnd previous) (isBlankOrEnd rest.head?) c
      breaks := t.breaks || isTextBreak c
      special := t.special || !(c == '\n' || (' ' ≤ c && c ≤ '~'))
      breakSpace := t.breakSpace || (c == ' ' && previous.any isTextBreak)
      spaceBreak := t.spaceBreak || (isTextBreak c && previous == some ' ') }

def traits (cs : List Char) : Traits :=
  let t := traitsFrom none cs
  let startsDocument := ['-', '-', '-'].isPrefixOf cs || ['.', '.', '.'].isPrefixOf cs
  { t with indicators := t.indicators || startsDocument }

/-- The ways to write a scalar. -/
inductive Style where
  | plain
  | single
  | double
  deriving DecidableEq

def hasOuterBlank (cs : List Char) : Bool :=
  let isOuter (c : Option Char) : Bool := c.any fun x => x == ' ' || isTextBreak x
  isOuter cs.head? || isOuter cs.getLast?

/-- How a text is written. As a key it cannot have several lines. -/
def styleOf (isKey : Bool) (s : String) : Style :=
  let cs := s.toList
  let t := traits cs
  let readsBack := kindOf s == .words
  if readsBack && !(hasOuterBlank cs || t.breaks || t.special || t.indicators) then .plain
  else if !(t.breakSpace || t.spaceBreak || t.special) && !(isKey && t.breaks) then .single
  else .double

/-- Writes a run of characters without blanks or of blanks in a plain text. -/
def plainFrom (column : Nat) (splits : Bool) (run : List Char) (inSpaces : Bool) :
    List Char → Output → Output
  | [], o => o.put run.reverse
  | c :: rest, o =>
    if inSpaces then
      if c == ' ' then plainFrom column splits (c :: run) true rest o
      else
        let o :=
          if run.length == 1 && lineWidth < o.column && splits then
            { o.indent column with afterBlank := false, atStart := false }
          else o.put run.reverse
        plainFrom column splits [c] false rest o
    else if c == ' ' then plainFrom column splits [c] true rest (o.put run.reverse)
    else plainFrom column splits (c :: run) false rest o

/-- Writes a text without quotes; further lines go to a column. -/
def writePlain (column : Nat) (splits : Bool) (cs : List Char) (o : Output) : Output :=
  if cs.isEmpty then o
  else
    let o := if o.afterBlank then o else o.put [' ']
    plainFrom column splits [] false cs { o with afterBlank := false, atStart := false }

/-- What the run of characters being written is. -/
inductive Run where
  | word
  | spaces
  | breaks
  deriving DecidableEq

/-- The kind of run a character belongs to. -/
def runOf (c : Char) : Run :=
  if c == ' ' then .spaces else if isTextBreak c then .breaks else .word

/-- Writes a finished run of a text in single quotes. A single space between words
may become a line end; a line end is written as an empty line. -/
def singleRun (column : Nat) (splits isInner : Bool) (kind : Run) (run : List Char)
    (o : Output) : Output :=
  match kind with
  | .word => o.put (run.flatMap fun c => if c == '\'' then ['\'', '\''] else [c])
  | .spaces =>
    if run.length == 1 && lineWidth < o.column && splits && isInner then o.indent column
    else o.put run
  | .breaks =>
    let o := if run.head? == some '\n' then o.breakLine '\n' else o
    (run.foldl (fun o c => o.breakLine c) o).indent column

/-- Writes the runs of a text in single quotes, after the characters of a first
run (last first). -/
def singleFrom (column : Nat) (splits isFirst : Bool) (kind : Run) (run : List Char) :
    List Char → Output → Output
  | [], o => if run.isEmpty then o else singleRun column splits false kind run.reverse o
  | c :: rest, o =>
    if run.isEmpty || runOf c == kind then
      singleFrom column splits isFirst (runOf c) (c :: run) rest o
    else
      singleFrom column splits false (runOf c) [c] rest
        (singleRun column splits (!isFirst) kind run.reverse o)

def writeSingle (column : Nat) (splits : Bool) (cs : List Char) (o : Output) : Output :=
  (singleFrom column splits true .word [] cs (o.mark ['\''] true false)).mark ['\''] false false

/-- Hexadecimal digits in capitals, with leading zeros. -/
def hexDigits (width n : Nat) : List Char :=
  let digits := (Nat.toDigits 16 n).map Char.toUpper
  List.replicate (width - digits.length) '0' ++ digits

def escapeOf (c : Char) : List Char :=
  let short : List (Char × Char) :=
    [('\x00', '0'), ('\x07', 'a'), ('\x08', 'b'), ('\t', 't'), ('\n', 'n'), ('\x0b', 'v'),
     ('\x0c', 'f'), ('\r', 'r'), ('\x1b', 'e'), ('"', '"'), ('\\', '\\'), ('\x85', 'N'),
     ('\xa0', '_'), ('\u2028', 'L'), ('\u2029', 'P')]
  match short.find? fun e => e.1 == c with
  | some (_, letter) => ['\\', letter]
  | none =>
    if c.toNat ≤ 0xFF then '\\' :: 'x' :: hexDigits 2 c.toNat
    else if c.toNat ≤ 0xFFFF then '\\' :: 'u' :: hexDigits 4 c.toNat
    else '\\' :: 'U' :: hexDigits 8 c.toNat

/-- Whether a character in double quotes needs an escape. -/
def needsEscape (c : Char) : Bool :=
  c == '"' || c == '\\' || !(' ' ≤ c && c ≤ '~')

/-- Writes a text in double quotes: `run` has the characters not yet written, last
first, and `isFirst` says that the next character is the first. Before a blank or
after an escape a line that has become too long is ended by a backslash. -/
def doubleFrom (column : Nat) (splits isFirst : Bool) (run : List Char) :
    List Char → Output → Output
  | [], o => o.put run.reverse
  | c :: rest, o =>
    let (o, run, escaped) :=
      if needsEscape c then ((o.put run.reverse).put (escapeOf c), [], true) else (o, run, false)
    let isInner := !isFirst && !rest.isEmpty
    let reached := if escaped then o.column - 1 else o.column + run.length
    if isInner && (c == ' ' || run.isEmpty) && lineWidth < reached && splits then
      let o := (o.put (run.reverse ++ ['\\'])).indent column
      let o := { o with afterBlank := false, atStart := false }
      let next := if escaped then rest.head? else some c
      let o := if next == some ' ' then o.put ['\\'] else o
      doubleFrom column splits false (if escaped then [] else [c]) rest o
    else doubleFrom column splits false (if escaped then [] else c :: run) rest o

def writeDouble (column : Nat) (splits : Bool) (cs : List Char) (o : Output) : Output :=
  (doubleFrom column splits true [] cs (o.mark ['"'] true false)).mark ['"'] false false

/-- Writes a text; further lines go to a column. -/
def writeText (column : Nat) (isKey : Bool) (s : String) (o : Output) : Output :=
  match styleOf isKey s with
  | .plain => writePlain column (!isKey) s.toList o
  | .single => writeSingle column (!isKey) s.toList o
  | .double => writeDouble column (!isKey) s.toList o

/-- A real number, always with a point. -/
def realText (x : Float) : String :=
  let written := Number.shown.text x
  if written == "nan" then ".nan"
  else if written == "inf" then ".inf"
  else if written == "-inf" then "-.inf"
  else if Text.contains "." written then written
  else Text.replace "e" ".0e" written

/-- Writes a value that is neither a list nor a record. -/
def writeScalar (column : Nat) (v : Value) (o : Output) : Output :=
  match v with
  | .text s => writeText column false s o
  | .null => writePlain column true "null".toList o
  | .bool b => writePlain column true (if b then "true" else "false").toList o
  | .int n => writePlain column true (toString n).toList o
  | .real x => writePlain column true (realText x).toList o
  | .date iso => writePlain column true (Text.replace "T" " " iso).toList o
  | .list _ => o.mark ['[', ']'] true false
  | .record _ => o.mark ['\x7b', '\x7d'] true false

-- =============================================================== nodes

/-- Whether a name can stand before its colon on one line. -/
def isSimpleKey (name : String) : Bool :=
  !name.isEmpty && !(traits name.toList).breaks && name.length < 128

def writeName (column : Nat) (name : String) (o : Output) : Output :=
  let o := o.indent column
  if isSimpleKey name then
    (writeText (column + 2) true name o).mark [':'] false false
  else
    let o := writeText (column + 2) false name (o.mark ['?'] true true)
    (o.indent column).mark [':'] true true

mutual

/-- A value with the fields of all its records in the order of their names. -/
def ordered : Value → Value
  | .list items => .list (orderedItems items)
  | .record fields => .record ((orderedFields fields).mergeSort fun a b => a.1 ≤ b.1)
  | v => v

def orderedItems : List Value → List Value
  | [] => []
  | v :: rest => ordered v :: orderedItems rest

/-- The fields of a record with their own fields in order. -/
def orderedFields : List (String × Value) → List (String × Value)
  | [] => []
  | (name, v) :: rest => (name, ordered v) :: orderedFields rest

end

mutual

/-- Writes a value in a block whose entries stand at a column. -/
def write (column : Nat) (inRecord : Bool) : Value → Output → Output
  | .list (v :: rest), o =>
    let isBare := inRecord && !o.atStart
    writeItems (if isBare then column else column + 2) (v :: rest) o
  | .record (f :: rest), o => writeFields (column + 2) (f :: rest) o
  | v, o => writeScalar (column + 2) v o

def writeItems (column : Nat) : List Value → Output → Output
  | [], o => o
  | v :: rest, o => writeItems column rest (write column false v ((o.indent column).mark ['-'] true true))

def writeFields (column : Nat) : List (String × Value) → Output → Output
  | [], o => o
  | (name, v) :: rest, o => writeFields column rest (write column true v (writeName column name o))

end

def block (fields : List (String × Value)) : String :=
  match ordered (.record fields) with
  | .record (f :: rest) =>
    String.ofList ((writeFields 0 (f :: rest) Output.empty).indent 0).chars.reverse
  | _ => "\x7b\x7d\n"

end SourceAudit.Value.Yaml
