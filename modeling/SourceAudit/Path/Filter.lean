/-
File filters: patterns that a path matches or not.

A pattern with several parts is compared with the last parts of a path, one that
begins at the root with all of them. Inside a part a star stands for any
characters, a question mark for one, and a bracket for one of a set.
-/
import SourceAudit.Fault
import SourceAudit.Path

namespace SourceAudit.Path

/-- One element of a name pattern. -/
inductive Piece where
  | star
  | one
  | char (c : Char)
  | oneOf (negated : Bool) (chars : List Char) (ranges : List (Char × Char))
  deriving Repr

/-- Whether an element that stands for one character stands for this one. -/
def Piece.holds (c : Char) : Piece → Bool
  | .star => false
  | .one => true
  | .char d => d == c
  | .oneOf negated chars ranges =>
    (chars.contains c || ranges.any fun r => r.1 ≤ c && c ≤ r.2) != negated

/-- Whether a name is what the elements stand for. A star is tried with nothing
first; the counter bounds how often it takes one character more. -/
def piecesMatch : Nat → List Piece → List Char → Bool
  | 0, _, _ => false
  | _ + 1, [], cs => cs.isEmpty
  | fuel + 1, .star :: rest, cs =>
    piecesMatch fuel rest cs ||
      (match cs with
       | [] => false
       | _ :: more => piecesMatch fuel (.star :: rest) more)
  | fuel + 1, piece :: rest, cs =>
    match cs with
    | [] => false
    | c :: more => piece.holds c && piecesMatch fuel rest more

-- ============================================================ brackets

/-- Cuts the inside of a bracket at the hyphens that make ranges: a hyphen does
so if something stands before it, and not right after the end of a range. -/
def hyphenChunks : Nat → List Char → List Char → List (List Char)
  | _, chunk, [] => [chunk.reverse]
  | guarded, chunk, c :: rest =>
    if c == '-' && guarded == 0 then chunk.reverse :: hyphenChunks 2 [] rest
    else hyphenChunks (guarded - 1) (c :: chunk) rest

/-- A last chunk that is empty means that the bracket ends with a hyphen, which
then stands for itself. -/
def mendLast (chunks : List (List Char)) : List (List Char) :=
  match chunks.reverse with
  | [] :: previous :: before => ((previous ++ ['-']) :: before).reverse
  | _ => chunks

/-- Removes ranges whose ends are in the wrong order, together with their ends,
from the last range to the first. -/
def dropEmptyRanges : List (List Char) → List (List Char)
  | [] => []
  | chunk :: rest =>
    match dropEmptyRanges rest with
    | [] => [chunk]
    | next :: more =>
      match chunk.getLast?, next.head? with
      | some last, some first =>
        if first < last then (chunk.dropLast ++ next.drop 1) :: more else chunk :: next :: more
      | _, _ => chunk :: next :: more

/-- The single characters and the ranges that chunks stand for. A hyphen with nothing before
it stands for itself. -/
def chunkItems (isFirst : Bool) : List (List Char) → List Char × List (Char × Char)
  | [] => ([], [])
  | [chunk] => (if isFirst then chunk else chunk.drop 1, [])
  | chunk :: next :: rest =>
    match chunk.getLast?, next.head? with
    | some first, some last =>
      let (chars, ranges) := chunkItems false (next :: rest)
      ((if isFirst then chunk else chunk.drop 1).dropLast ++ chars, (first, last) :: ranges)
    | _, _ =>
      let (chars, ranges) := chunkItems true (next :: rest)
      ('-' :: chars, ranges)

/-- The element that the inside of a bracket stands for. Whether it is negated shows only
when its empty ranges are gone. -/
def bracketPiece (inside : List Char) : Piece :=
  let guarded := if inside.head? == some '!' then 2 else 1
  let (negated, chunks) :=
    match dropEmptyRanges (mendLast (hyphenChunks guarded [] inside)) with
    | ('!' :: first) :: rest => (true, first :: rest)
    | chunks => (false, chunks)
  let (chars, ranges) := chunkItems true chunks
  .oneOf negated chars ranges

/-- The inside of a bracket and what follows it, if the bracket is closed. A
closing bracket right at the start stands for itself. -/
def splitBracket (cs : List Char) : Option (List Char × List Char) :=
  let (lead, body) :=
    match cs with
    | '!' :: ']' :: rest => (['!', ']'], rest)
    | '!' :: rest => (['!'], rest)
    | ']' :: rest => ([']'], rest)
    | _ => ([], cs)
  match body.dropWhile (· != ']') with
  | _ :: after => some (lead ++ body.takeWhile (· != ']'), after)
  | [] => none

/-- The elements of a name pattern. -/
def readPieces : Nat → List Char → List Piece
  | 0, _ => []
  | _ + 1, [] => []
  | fuel + 1, c :: rest =>
    if c == '*' then .star :: readPieces fuel rest
    else if c == '?' then .one :: readPieces fuel rest
    else if c == '[' then
      match splitBracket rest with
      | some (inside, after) => bracketPiece inside :: readPieces fuel after
      | none => .char c :: readPieces fuel rest
    else .char c :: readPieces fuel rest

def nameMatches (pattern name : String) : Bool :=
  let pieces := readPieces (pattern.length + 1) pattern.toList
  piecesMatch (pieces.length + name.length + 1) pieces name.toList

/-- Whether a path matches a filter pattern. A pattern without parts is refused. -/
def fits (pattern path : String) : Outcome Bool :=
  match parts pattern with
  | [] => .error .emptyPattern
  | wanted =>
    let given := parts path
    let pairs := given.reverse.zip wanted.reverse
    if root pattern != "" then
      .ok (root pattern == root path && wanted.length == given.length &&
        (given.drop 1 |>.reverse.zip (wanted.drop 1).reverse).all fun p => nameMatches p.2 p.1)
    else
      .ok (wanted.length ≤ given.length && pairs.all fun p => nameMatches p.2 p.1)

end SourceAudit.Path
