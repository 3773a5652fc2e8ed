/-
Tables of characters written as texts. Entries are divided by blanks and line
ends, and numbers are in base 16. Code points ascend and are told by their distances.
-/
import SourceAudit.Text.Blank
import SourceAudit.Text.Digit

namespace SourceAudit.Text

def tableNumber (cs : List Char) : Nat :=
  (hexNumber? cs).getD 0

def tableItems (table : String) : List (List Char) :=
  ((splitLines table).flatMap (splitOnChar ' ')).filterMap fun entry =>
    if entry.isEmpty then none else some entry.toList

/-- The entries of a table as the pieces left and right of the colon. -/
def tableEntries (table : String) : List (List Char × List Char) :=
  (tableItems table).filterMap fun entry =>
    match splitAtChar ':' [] entry with
    | [key, image] => some (key, image)
    | _ => none

/-- The run of code points that `G-L`, or `G` alone, stands for after a last code point: it
begins `G` after that one and goes on for `L` more. -/
def tableRun (last : Nat) (key : List Char) : Nat × Nat :=
  match (splitAtChar '-' [] key).map tableNumber with
  | [gap, more] => (last + gap, last + gap + more)
  | numbers => let only := last + numbers.headD 0; (only, only)

/-- The numbers of each image of an entry: images are divided by commas, the
numbers of one by plus signs. A number that is left out is that of the image before. -/
def tableImages (images : List Char) : List (List Nat) :=
  ((splitAtChar ',' [] images).foldl (fun done image =>
    let filled := (splitAtChar '+' [] image).mapIdx fun i digits =>
      if digits.isEmpty then (done.headD [])[i]?.getD 0 else tableNumber digits
    filled :: done) []).reverse

end SourceAudit.Text
