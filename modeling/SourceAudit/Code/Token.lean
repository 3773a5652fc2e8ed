/-
Tokens of Python source. Besides names, numbers, string literals and marks there
are tokens for the layout: the end of a logical line, and the beginning and the
end of an indented block.

A line is indented by the blanks in front of it. Tabs are measured twice, as
reaching the next multiple of eight and as one column; both measures must tell
the same story.
-/
import SourceAudit.Text.Identifier
import SourceAudit.Text.Encoding
import SourceAudit.Text.Numeral
import SourceAudit.Text.Search

namespace SourceAudit.Code

/-- A string literal: its kind and the text between its quotes. -/
structure Literal where
  bytes : Bool
  raw : Bool
  formatted : Bool
  body : List Char
  deriving DecidableEq, Repr

/-- A token of Python source. -/
inductive Token where
  | name (spelling : String)
  | keyword (word : String)
  | number (imaginary : Bool)
  | literal (l : Literal)
  | mark (spelling : String)
  | newline
  | indent
  | dedent
  | finish
  deriving DecidableEq, Repr

-- =========================================================== alphabets

def keywords : List String :=
  ["False", "None", "True", "and", "as", "assert", "async", "await", "break", "class", "continue",
   "def", "del", "elif", "else", "except", "finally", "for", "from", "global", "if", "import", "in",
   "is", "lambda", "nonlocal", "not", "or", "pass", "raise", "return", "try", "while", "with",
   "yield"]

/-- Marks of three, two and one characters, longer ones first. -/
def marks : List String :=
  ["**=", "//=", ">>=", "<<=", "...", "!=", "%=", "&=", "**", "*=", "+=", "-=", "->", "//", "/=",
   ":=", "<<", "<=", "==", ">=", ">>", "@=", "^=", "|=", "%", "&", "(", ")", "*", "+", ",", "-",
   ".", "/", ":", ";", "<", "=", ">", "@", "[", "]", "^", "\x7b", "|", "\x7d", "~"]

/-- A character that may stand in a word, as far as its first look tells. -/
def isWordChar (c : Char) : Bool :=
  c.isAlphanum || c == '_' || 128 ≤ c.toNat

def isHexDigit (c : Char) : Bool :=
  c.isDigit || ('a' ≤ c && c ≤ 'f') || ('A' ≤ c && c ≤ 'F')

def isOctalDigit (c : Char) : Bool :=
  '0' ≤ c && c ≤ '7'

def isBinaryDigit (c : Char) : Bool :=
  c == '0' || c == '1'

-- ============================================================= numbers

/-- Goes on after a digit of a number: more digits, single underscores between them. -/
def moreDigits (isOne : Char → Bool) : List Char → Option (List Char)
  | [] => some []
  | '_' :: c :: rest => if isOne c then moreDigits isOne rest else none
  | c :: rest =>
    if c == '_' then none
    else if isOne c then moreDigits isOne rest
    else some (c :: rest)

/-- Words that may follow a number directly. -/
def afterNumber : List String :=
  ["and", "else", "for", "if", "in", "is", "not", "or"]

/-- Whether a number can end in front of `rest`: no word starts there, or one of
those that may. -/
def canEndNumber (rest : List Char) : Bool :=
  match rest with
  | [] => true
  | c :: _ => !isWordChar c || afterNumber.any fun word => word.toList.isPrefixOf rest

def endNumber (imaginary : Bool) (rest : List Char) : Option (Bool × List Char) :=
  if canEndNumber rest then some (imaginary, rest) else none

/-- The end of a number that may have an imaginary unit. -/
def unitTail : List Char → Option (Bool × List Char)
  | 'j' :: rest => endNumber true rest
  | 'J' :: rest => endNumber true rest
  | rest => endNumber false rest

/-- The rest of a number after the letter of an exponent; `whole` is the text
from the letter on. -/
def exponentTail (whole rest : List Char) : Option (Bool × List Char) :=
  match rest with
  | c :: d :: tail =>
    if c == '+' || c == '-' then
      if d.isDigit then (moreDigits Char.isDigit tail).bind unitTail else none
    else if c.isDigit then (moreDigits Char.isDigit (d :: tail)).bind unitTail
    else endNumber false whole
  | [c] =>
    if c == '+' || c == '-' then none
    else if c.isDigit then some (false, []) else endNumber false whole
  | [] => endNumber false whole

/-- The rest of a number after its whole and fractional digits. -/
def scaleTail (rest : List Char) : Option (Bool × List Char) :=
  match rest with
  | c :: tail => if c == 'e' || c == 'E' then exponentTail rest tail else unitTail rest
  | [] => unitTail []

def fractionTail (rest : List Char) : Option (Bool × List Char) :=
  match rest with
  | c :: tail => if c.isDigit then (moreDigits Char.isDigit tail).bind scaleTail else scaleTail rest
  | [] => scaleTail []

/-- The rest of a decimal number after its whole digits. -/
def wholeTail (rest : List Char) : Option (Bool × List Char) :=
  match rest with
  | '.' :: tail => fractionTail tail
  | _ => scaleTail rest

/-- A number in another base, after the letter that names the base. -/
def basedTail (isOne : Char → Bool) (rest : List Char) : Option (Bool × List Char) :=
  let digits := match rest with | '_' :: tail => tail | _ => rest
  match digits with
  | c :: tail =>
    if isOne c then
      (moreDigits isOne tail).bind fun rest =>
        if (rest.head?.map Char.isDigit).getD false then none else endNumber false rest
    else none
  | [] => none

def skipZeros : List Char → Option (List Char)
  | '0' :: rest => skipZeros rest
  | ['_'] => none
  | '_' :: c :: rest =>
    if c == '0' then skipZeros rest
    else if c.isDigit then some (c :: rest)
    else none
  | rest => some rest

/-- A number that starts with a zero, after that zero: without a point, an
exponent or an imaginary unit only zeros may follow. -/
def zeroTail (rest : List Char) : Option (Bool × List Char) := do
  let afterZeros ← skipZeros rest
  match afterZeros with
  | c :: tail =>
    if c.isDigit then
      let after ← moreDigits Char.isDigit tail
      match after with
      | '.' :: more => fractionTail more
      | d :: more =>
        if d == 'e' || d == 'E' then exponentTail after more
        else if d == 'j' || d == 'J' then endNumber true more
        else none
      | [] => none
    else wholeTail afterZeros
  | [] => some (false, [])

/-- Whether a decimal number is short enough; only whole numbers have a limit. -/
def isShortEnough (text : List Char) : Bool :=
  !text.all (fun c => c.isDigit || c == '_') || text.countP Char.isDigit ≤ Text.digitLimit

/-- A number at the front of a text that starts with a digit. -/
def number? (cs : List Char) : Option (Bool × List Char) :=
  match cs with
  | '0' :: rest =>
    match rest with
    | c :: tail =>
      if c == 'x' || c == 'X' then basedTail isHexDigit tail
      else if c == 'o' || c == 'O' then basedTail isOctalDigit tail
      else if c == 'b' || c == 'B' then basedTail isBinaryDigit tail
      else zeroTail rest
    | [] => some (false, [])
  | _ :: rest => (moreDigits Char.isDigit rest).bind wholeTail
  | [] => none

-- ===================================================== string literals

/-- The text up to the closing quote and what follows it. A literal in single
quotes ends on its line, unless a backslash stands before the line's end. -/
def literalBody (quote : Char) (triple : Bool) (body : List Char) :
    List Char → Option (List Char × List Char)
  | [] => none
  | '\\' :: c :: rest => literalBody quote triple (c :: '\\' :: body) rest
  | c :: rest =>
    if c == quote then
      if !triple then some (body.reverse, rest)
      else
        match rest with
        | d :: e :: after =>
          if d == quote && e == quote then some (body.reverse, after)
          else literalBody quote triple (c :: body) rest
        | _ => none
    else if c == '\n' && !triple then none
    else literalBody quote triple (c :: body) rest

def literalLetters : List String :=
  ["b", "u", "r", "f", "br", "rb", "fr", "rf"]

/-- A string literal at its opening quote, the letters in front of it given. -/
def literal? (letters : String) (cs : List Char) : Option (Literal × List Char) :=
  let has (c : Char) : Bool := letters.toList.contains c
  let make (r : List Char × List Char) : Literal × List Char :=
    (⟨has 'b', has 'r', has 'f', r.1⟩, r.2)
  match cs with
  | q :: rest =>
    match rest with
    | a :: b :: after =>
      if a == q && b == q then (literalBody q true [] after).map make
      else (literalBody q false [] rest).map make
    | _ => (literalBody q false [] rest).map make
  | [] => none

-- ============================================================== layout

/-- The indentation of a line, measured both ways, and the text after it. A
backslash at the line's end joins the next line to it, and the first such
backslash fixes the indentation. -/
def indentation (column narrow joined : Nat) : List Char → Option (Nat × Nat × List Char)
  | ' ' :: rest => indentation (column + 1) (narrow + 1) joined rest
  | '\t' :: rest => indentation ((column / 8 + 1) * 8) (narrow + 1) joined rest
  | '\x0c' :: rest => indentation 0 0 joined rest
  | '\\' :: rest =>
    match rest with
    | '\n' :: tail =>
      if tail.isEmpty then none
      else indentation column narrow (if joined == 0 then column else joined) tail
    | _ => none
  | rest => if joined == 0 then some (column, narrow, rest) else some (joined, joined, rest)

/-- Drops the rest of a line, its ending kept. -/
def skipComment (cs : List Char) : List Char :=
  cs.dropWhile (· != '\n')

def blockLimit : Nat := 100

def bracketLimit : Nat := 200

/-- What is known between two tokens: the indentations of the open blocks,
innermost first, the number of open brackets, and the tokens so far, the last
one first. -/
structure Progress where
  indents : List (Nat × Nat)
  brackets : Nat
  tokens : List Token

/-- Closes the blocks that are indented more than `column`. -/
def closeBlocks (column : Nat) : List (Nat × Nat) → List Token → List (Nat × Nat) × List Token
  | [], tokens => ([], tokens)
  | [base], tokens => ([base], tokens)
  | top :: next :: below, tokens =>
    if column < top.1 then closeBlocks column (next :: below) (.dedent :: tokens)
    else (top :: next :: below, tokens)

/-- Takes account of the indentation of a line. -/
def Progress.indentTo (p : Progress) (column narrow : Nat) : Option Progress :=
  match p.indents with
  | [] => none
  | (c, n) :: below =>
    if column == c then if narrow == n then some p else none
    else if c < column then
      if blockLimit ≤ p.indents.length || narrow ≤ n then none
      else
        some { p with
          indents := (column, narrow) :: (c, n) :: below
          tokens := .indent :: p.tokens }
    else
      let (indents, tokens) := closeBlocks column ((c, n) :: below) p.tokens
      match indents with
      | (c, n) :: _ =>
        if column == c && narrow == n then some { p with indents, tokens } else none
      | [] => none

def Progress.push (p : Progress) (t : Token) : Progress :=
  { p with tokens := t :: p.tokens }

-- ============================================================== tokens

/-- Whether the characters of a word make an identifier. -/
def isIdentifier : List Char → Bool
  | [] => false
  | c :: rest => Text.isNameStart c && rest.all Text.isNameRest

/-- A word, or the literal it is the letters of. -/
def wordToken (cs : List Char) : Option (Token × List Char) :=
  let word := cs.takeWhile isWordChar
  let rest := cs.dropWhile isWordChar
  let spelling := String.ofList word
  let quoteFollows := match rest with | c :: _ => c == '"' || c == '\'' | [] => false
  if quoteFollows && literalLetters.contains spelling.toLower then
    (literal? spelling.toLower rest).map fun (l, rest) => (.literal l, rest)
  else if keywords.contains spelling then some (.keyword spelling, rest)
  else if isIdentifier word then some (.name spelling, rest)
  else none

def numberToken (cs : List Char) (found : Option (Bool × List Char)) : Option (Token × List Char) :=
  found.bind fun (imaginary, rest) =>
    if imaginary || isShortEnough (cs.takeWhile fun c => isWordChar c || c == '.') then
      some (.number imaginary, rest)
    else none

/-- The token at the front of a text that starts with neither a blank, a comment
nor a line's end. -/
def tokenAt (cs : List Char) : Option (Token × List Char) :=
  match cs with
  | [] => none
  | c :: rest =>
    if c.isDigit then numberToken cs (number? cs)
    else if isWordChar c then wordToken cs
    else if c == '"' || c == '\'' then (literal? "" cs).map fun (l, rest) => (.literal l, rest)
    else if c == '.' && (rest.head?.map Char.isDigit).getD false then
      numberToken cs (fractionTail rest)
    else
      (marks.find? fun m => m.toList.isPrefixOf cs).map fun m => (.mark m, cs.drop m.length)

/-- The number of open brackets after a token; a closing bracket needs an open one. -/
def bracketsAfter (brackets : Nat) : Token → Option Nat
  | .mark m =>
    if m == "(" || m == "[" || m == "\x7b" then
      if bracketLimit ≤ brackets then none else some (brackets + 1)
    else if m == ")" || m == "]" || m == "\x7d" then
      if brackets == 0 then none else some (brackets - 1)
    else some brackets
  | _ => some brackets

/-- The tokens of a text, given what came before and whether a line starts here.
Each round takes at least one character away. -/
def scan : Nat → Bool → Progress → List Char → Option Progress
  | 0, _, _, _ => none
  | fuel + 1, true, p, cs =>
    match indentation 0 0 0 cs with
    | none => none
    | some (column, narrow, rest) =>
      match rest with
      | '#' :: _ => scan fuel true p ((skipComment rest).drop 1)
      | '\n' :: tail => scan fuel true p tail
      | _ =>
        if p.brackets == 0 then
          match p.indentTo column narrow with
          | some p => scan fuel false p rest
          | none => none
        else scan fuel false p rest
  | fuel + 1, false, p, cs =>
    match cs with
    | [] => if p.brackets == 0 then some (p.push .finish) else none
    | ' ' :: rest => scan fuel false p rest
    | '\t' :: rest => scan fuel false p rest
    | '\x0c' :: rest => scan fuel false p rest
    | '#' :: rest => scan fuel false p (skipComment rest)
    | '\n' :: rest =>
      if p.brackets == 0 then scan fuel true (p.push .newline) rest else scan fuel true p rest
    | '\\' :: rest =>
      match rest with
      | '\n' :: tail => if tail.isEmpty then none else scan fuel false p tail
      | _ => none
    | cs =>
      match tokenAt cs with
      | none => none
      | some (t, rest) =>
        match bracketsAfter p.brackets t with
        | none => none
        | some brackets => scan fuel false { p.push t with brackets } rest

/-- Ends every line with a line feed and nothing else, the last one too. -/
def closeLines (cs : List Char) : List Char :=
  let unified := Text.unifyNewlines cs
  if unified.getLast? == some '\n' || unified.isEmpty then unified else unified ++ ['\n']

/-- The tokens of a source text, none if it has no proper ones. -/
def tokens? (source : List Char) : Option (Array Token) :=
  if source.contains '\x00' then none
  else
    let cs := closeLines source
    (scan (2 * cs.length + 4) true ⟨[(0, 0)], 0, []⟩ cs).map fun p => p.tokens.reverse.toArray

end SourceAudit.Code
