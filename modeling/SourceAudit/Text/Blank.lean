/-
Blanks, trimming and the two ways of breaking a text into lines.

Reading a file line by line ends a line at a line feed only and keeps it;
splitting a text into lines ends a line at any of ten characters (a carriage
return with its line feed counting once) and drops the ending.
-/
namespace SourceAudit.Text

/-- A blank of any script: the separators, the line and paragraph endings and
the information separators. -/
def isBlank (c : Char) : Bool :=
  let n := c.toNat
  (0x09 ≤ n && n ≤ 0x0D) || (0x1C ≤ n && n ≤ 0x20) || n == 0x85 || n == 0xA0 || n == 0x1680 ||
    (0x2000 ≤ n && n ≤ 0x200A) || n == 0x2028 || n == 0x2029 || n == 0x202F || n == 0x205F ||
    n == 0x3000

def isLineBreak (c : Char) : Bool :=
  let n := c.toNat
  (0x0A ≤ n && n ≤ 0x0D) || (0x1C ≤ n && n ≤ 0x1E) || n == 0x85 || n == 0x2028 || n == 0x2029

-- ============================================================ trimming

def trimStart (cs : List Char) : List Char :=
  cs.dropWhile isBlank

def trimEnd (cs : List Char) : List Char :=
  (cs.reverse.dropWhile isBlank).reverse

def trim (s : String) : String :=
  String.ofList (trimEnd (trimStart s.toList))

-- =============================================================== lines

/-- The lines of a text, broken at every line-breaking character, endings
dropped. A text that ends with a break has no empty last line. -/
def splitLinesFrom (line : List Char) : List Char → List (List Char)
  | [] => if line.isEmpty then [] else [line.reverse]
  | '\r' :: '\n' :: rest => line.reverse :: splitLinesFrom [] rest
  | c :: rest =>
    if isLineBreak c then line.reverse :: splitLinesFrom [] rest
    else splitLinesFrom (c :: line) rest

def splitLines (s : String) : List String :=
  (splitLinesFrom [] s.toList).map String.ofList

/-- The lines of a text cut after each line feed, endings kept. -/
def readLinesFrom (line : List Char) : List Char → List (List Char)
  | [] => if line.isEmpty then [] else [line.reverse]
  | c :: rest =>
    if c == '\n' then (c :: line).reverse :: readLinesFrom [] rest
    else readLinesFrom (c :: line) rest

/-- The lines of a text as a reader of the file meets them: each ends with its
line feed, the last one perhaps not. -/
def readLines (s : String) : List String :=
  (readLinesFrom [] s.toList).map String.ofList

/-- The pieces of a text between the occurrences of one character; there is
always at least one piece. -/
def splitAtChar (sep : Char) (piece : List Char) : List Char → List (List Char)
  | [] => [piece.reverse]
  | c :: rest =>
    if c == sep then piece.reverse :: splitAtChar sep [] rest
    else splitAtChar sep (c :: piece) rest

/-- The pieces of a text between the occurrences of one character. -/
def splitOnChar (sep : Char) (s : String) : List String :=
  (splitAtChar sep [] s.toList).map String.ofList

end SourceAudit.Text
