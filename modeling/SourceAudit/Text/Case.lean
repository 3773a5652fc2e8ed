/-
Letter case of whole texts: small, capital and titled form, and the comparison
that ignores case.

A capital sigma at the end of a word has a small form of its own; whether it
stands there is decided from its neighbours, skipping marks without case.
-/
import SourceAudit.Text.CaseTable

namespace SourceAudit.Text

def isCased (c : Char) : Bool :=
  if c.toNat < 0x80 then c.isAlpha else inRanges c.toNat casedRanges

/-- A mark that stands inside a word without case of its own. -/
def isCaseIgnorable (c : Char) : Bool :=
  if c.toNat < 0x80 then c == '\'' || c == '.' || c == ':' || c == '^' || c.toNat == 0x60
  else inRanges c.toNat caseIgnorableRanges

/-- The images of a code point under a table of several-character forms and a
list of runs; a code point in neither is its own image. -/
def caseImages (special : List (Nat × List Nat)) (runs : List CaseRun) (c : Char) : List Char :=
  match special.find? (·.1 == c.toNat) with
  | some (_, images) => images.map Char.ofNat
  | none =>
    match CaseRun.apply? c.toNat runs with
    | some n => [Char.ofNat n]
    | none => [c]

/-- The small form of a character outside any context. -/
def lowerChar (c : Char) : List Char :=
  if c.toNat < 0x80 then [c.toLower] else caseImages lowerSpecial lowerRuns c

def upperChar (c : Char) : List Char :=
  if c.toNat < 0x80 then [c.toUpper] else caseImages upperSpecial upperRuns c

/-- The form of a character at the start of a titled word. -/
def titleChar (c : Char) : List Char :=
  if c.toNat < 0x80 then [c.toUpper]
  else caseImages (titleSpecial ++ upperSpecial) upperRuns c

/-- Whether the nearest character that is not case-ignorable is cased. -/
def meetsCased (cs : List Char) : Bool :=
  match cs.dropWhile isCaseIgnorable with
  | [] => false
  | c :: _ => isCased c

/-- The small form of a character between the reversed text before it and the
text after it. -/
def lowerAt (before : List Char) (c : Char) (after : List Char) : List Char :=
  if c.toNat == 0x3A3 then
    [if meetsCased before && !meetsCased after then Char.ofNat 0x3C2 else Char.ofNat 0x3C3]
  else lowerChar c

/-- The small form of a text, given the reversed text before it and the reversed
small form so far. -/
def lowerFrom (before done : List Char) : List Char → List Char
  | [] => done.reverse
  | c :: rest => lowerFrom (c :: before) ((lowerAt before c rest).reverse ++ done) rest

def lower (s : String) : String :=
  String.ofList (lowerFrom [] [] s.toList)

def upper (s : String) : String :=
  String.ofList (s.toList.flatMap upperChar)

/-- The titled form of a text: the first letter of each run of cased letters is
capital, the others small. -/
def titleFrom (before : List Char) (inWord : Bool) : List Char → List Char
  | [] => []
  | c :: rest =>
    (if inWord then lowerAt before c rest else titleChar c) ++
      titleFrom (c :: before) (isCased c) rest

def title (s : String) : String :=
  String.ofList (titleFrom [] false s.toList)

/-- The single small letter that stands for a character when case is ignored. -/
def foldChar (c : Char) : Char :=
  if c.toNat < 0x80 then c.toLower
  else
    match lowerChar c with
    | small :: _ => small
    | [] => c

/-- Whether two characters agree when case is ignored. The dotless i and the
long s agree with their plain letters, though neither has them as small form. -/
def agreesIgnoringCase (a b : Char) : Bool :=
  let x := foldChar a
  let y := foldChar b
  x == y || (x == 'i' && y.toNat == 0x131) || (x.toNat == 0x131 && y == 'i') ||
    (x == 's' && y.toNat == 0x17F) || (x.toNat == 0x17F && y == 's')

end SourceAudit.Text
