/-
Marks in what a terminal shows: words in brackets that switch a style on, and off again
with a slash.

A backslash before a mark makes plain text of it. Where a mark closes what is not open the
terminal refuses the text, and nothing of it is shown. What the words in a mark mean to the
terminal is a parameter.
-/
import SourceAudit.Report.Console

namespace SourceAudit.Report

-- =============================================================== marks

/-- A piece of a text: characters as they stand, or the inside of a mark and the position
of its bracket. -/
inductive Piece where
  | plain (cs : List Char)
  | mark (position : Nat) (inside : List Char)

def startsMark (c : Char) : Bool :=
  ('a' ≤ c && c ≤ 'z') || c == '#' || c == '/' || c == '@'

/-- The inside of the mark that an opening bracket starts, by what follows the bracket. -/
def insideMark? : List Char → Option (List Char)
  | [] => none
  | c :: rest =>
    let inside := c :: rest.takeWhile fun c => c != '[' && c != ']'
    if startsMark c && (rest.drop (inside.length - 1)).head? == some ']' then some inside
    else none

/-- The pieces of a text from a position on. So many backslashes stand right before it, and so
many of the next characters belong to a mark that has been met. -/
def piecesFrom (position slashes skip : Nat) : List Char → List Piece
  | [] => [.plain (List.replicate slashes '\\')]
  | c :: rest =>
    match skip with
    | skip + 1 => piecesFrom (position + 1) 0 skip rest
    | 0 =>
      if c == '\\' then piecesFrom (position + 1) (slashes + 1) 0 rest
      else if c != '[' then
        .plain (List.replicate slashes '\\' ++ [c]) :: piecesFrom (position + 1) 0 0 rest
      else match insideMark? rest with
        | none =>
          .plain (List.replicate (slashes - 1) '\\' ++ [c]) :: piecesFrom (position + 1) 0 0 rest
        | some inside =>
          .plain (List.replicate (slashes / 2) '\\') ::
            (if slashes % 2 == 0 then .mark position inside else .plain (c :: inside ++ [']'])) ::
            piecesFrom (position + 1) 0 (inside.length + 1) rest

def pieces (text : String) : List Piece :=
  piecesFrom 0 0 0 text.toList

-- ============================================================= refusal

/-- What a terminal makes of the words in marks. -/
structure Marking where
  /-- The name of a style, however it is written. -/
  styleName : String → String
  /-- What is wrong with the words that say what a link does, if anything. -/
  complaint? : String → Option String

/-- A style that is on, and the words that came with it. -/
structure Opened where
  style : String
  words : String

namespace Marking

/-- Takes what a mark closes from what is open, the last opened first: what has the name, or
just the last if there is none. -/
def close? (m : Marking) (name : String) (opened : List Opened) :
    Option (Opened × List Opened) :=
  let fits (o : Opened) := name == "" || o.style == m.styleName name
  (opened.find? fits).map fun o => (o, opened.eraseP fits)

/-- What is wrong with closing a link, if anything. -/
def linkFlaw? (m : Marking) (o : Opened) : Option String :=
  if o.style.toList.head? == some '@' && o.words != "" then m.complaint? o.words else none

/-- The first flaw of the marks among pieces. -/
def flawIn? (m : Marking) (opened : List Opened) : List Piece → Option String
  | [] => none
  | .plain _ :: rest => m.flawIn? opened rest
  | .mark position inside :: rest =>
    let name := inside.takeWhile fun c => c != '='
    let words := String.ofList (inside.drop (name.length + 1))
    if name.head? == some '/' then
      let name := Text.trim (String.ofList (name.drop 1))
      let told (what : String) := "closing tag '[" ++ what ++ "]' at position " ++ toString position
      match m.close? name opened with
      | none =>
        some (if name == "" then told "/" ++ " has nothing to close"
          else told (String.ofList inside) ++ " doesn't match any open tag")
      | some (o, opened) =>
        match m.linkFlaw? o with
        | some why => some why
        | none => m.flawIn? opened rest
    else m.flawIn? (⟨m.styleName (String.ofList name), words⟩ :: opened) rest

def flaw? (m : Marking) (text : String) : Option String :=
  m.flawIn? [] (pieces text)

/-- Marks as a terminal takes them whose styles have one name each. -/
def usual : Marking where
  styleName s := Text.lower (Text.trim s)
  complaint? _ := none

end Marking

/-- The texts that have to be laid out to show something, in the order in which that is done:
a table is laid out column by column. -/
def Display.texts : Display → List String
  | .blank => []
  | .line text => [text]
  | .table title columns rows =>
    columns.zipIdx.flatMap (fun (c, i) => c.header :: rows.filterMap fun r => r.1[i]?) ++ [title]
  | .panel text title _ => [title, text]

/-- Why a terminal refuses to show something, if it does. -/
def Marking.refusal? (m : Marking) (d : Display) : Option Fault :=
  (d.texts.findSome? m.flaw?).map .badMark

end SourceAudit.Report
