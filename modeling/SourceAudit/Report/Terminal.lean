/-
Lines as a terminal without colours shows them: marks for colours are left out, and
lines are broken between words. Every character counts as one column.
-/
import SourceAudit.Report.Marks

namespace SourceAudit.Report

def unmarked (text : String) : String :=
  String.ofList ((pieces text).flatMap fun
    | .plain cs => cs
    | .mark _ _ => [])

-- ============================================================ breaking

/-- Words with the blanks after them; those before the first word belong to it. -/
def wordsOf (blanks word : List Char) : List Char → List (List Char)
  | [] => if word.isEmpty then [] else [(blanks ++ word).reverse]
  | c :: rest =>
    if Text.isBlank c then
      if word.all Text.isBlank then wordsOf [] (c :: word) rest
      else wordsOf (c :: blanks) word rest
    else if blanks.isEmpty then wordsOf [] (c :: word) rest
    else (blanks ++ word).reverse :: wordsOf [] [c] rest

/-- A text in pieces of a width, in so many pieces at most. -/
def piecesIn (width : Nat) : Nat → List Char → List (List Char)
  | 0, _ => []
  | _ + 1, [] => []
  | n + 1, cs => cs.take width :: piecesIn width n (cs.drop width)

/-- A text without blanks at its end that reach beyond a width. -/
def cropped (width : Nat) (cs : List Char) : List Char :=
  let blanks := (cs.reverse.takeWhile Text.isBlank).length
  cs.take (cs.length - min blanks (cs.length - width))

/-- Breaks words into lines. `line` is the line so far, `done` the lines before it,
the last first. -/
def fill (width : Nat) (line : List Char) (done : List (List Char)) :
    List (List Char) → List (List Char)
  | [] => (line :: done).reverse
  | word :: rest =>
    let size := word.length - (word.reverse.takeWhile Text.isBlank).length
    if line.length + size ≤ width then fill width (line ++ word) done rest
    else
      let done := if line.isEmpty then done else line :: done
      if size ≤ width then fill width word done rest
      else
        let pieces := (piecesIn width word.length word).reverse
        fill width (pieces.headD []) (pieces.drop 1 ++ done) rest

/-- A line broken to a width, each part with its end. -/
def broken (width : Nat) (line : String) : String :=
  String.join ((fill width [] [] (wordsOf [] [] line.toList)).map fun l =>
    String.ofList (cropped width l) ++ "\n")

/-- What is shown, as a terminal of 80 columns shows it. Tables and panels are not. -/
def Display.plain : Display → String
  | .blank => "\n"
  | .line text => String.join ((Text.splitOnChar '\n' (unmarked text)).map (broken 80))
  | _ => ""

end SourceAudit.Report
