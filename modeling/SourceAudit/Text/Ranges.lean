/-
Character sets as tables. A set is a list of closed ranges of code points in
ascending order; membership stops at the first range that begins beyond the
code point, so the common small code points are decided at once.
-/
import SourceAudit.Text.Table

namespace SourceAudit.Text

/-- The ranges that the entries of a table stand for after a last code point. -/
def rangesFrom (last : Nat) : List (List Char) → List (Nat × Nat)
  | [] => []
  | key :: rest =>
    let run := tableRun last key
    run :: rangesFrom run.2 rest

def rangesIn (table : String) : List (Nat × Nat) :=
  rangesFrom 0 (tableItems table)

/-- Whether a code point lies in one of the closed ranges, which ascend. -/
def inRanges (n : Nat) : List (Nat × Nat) → Bool
  | [] => false
  | (lo, hi) :: rest => if n < lo then false else n ≤ hi || inRanges n rest

end SourceAudit.Text
