/-
How alike two texts are: the share of characters that lie in common runs.

The longest run that both texts have is taken first (of several, the one that
starts first), then the texts before it and the texts after it are compared in the
same way.
-/

namespace SourceAudit.Text

/-- How many characters two texts have in common at their starts. -/
def commonStart : List Char → List Char → Nat
  | a :: as, b :: bs => if a == b then commonStart as bs + 1 else 0
  | _, _ => 0

/-- A run that two texts have in common: where it starts in each, and its length. -/
structure Run where
  left : Nat
  right : Nat
  length : Nat

/-- The longer of two runs, the first if they are equally long. -/
def Run.longer (r s : Run) : Run :=
  if r.length < s.length then s else r

def longestRun (a b : List Char) : Run :=
  (List.range a.length).foldl (fun best i =>
    (List.range b.length).foldl (fun best j =>
      best.longer ⟨i, j, commonStart (a.drop i) (b.drop j)⟩) best) ⟨0, 0, 0⟩

/-- How many characters lie in common runs, found in so many rounds at most. -/
def sharedIn : Nat → List Char → List Char → Nat
  | 0, _, _ => 0
  | rounds + 1, a, b =>
    let run := longestRun a b
    if run.length == 0 then 0
    else
      run.length + sharedIn rounds (a.take run.left) (b.take run.right) +
        sharedIn rounds (a.drop (run.left + run.length)) (b.drop (run.right + run.length))

/-- How many characters two texts share. A round takes at least one of them, so
there are enough rounds. -/
def shared (a b : String) : Nat :=
  sharedIn (a.length + 1) a.toList b.toList

/-- Whether three fifths of the characters of two texts are shared. -/
def isClose (a b : String) : Bool :=
  decide (3 * (a.length + b.length) ≤ 10 * shared a b)

/-- Whether the first candidate is at least as close to a word as the second; of
equally close ones the later in the alphabet wins. -/
def isCloser (word a b : String) : Bool :=
  let left := shared a word * (b.length + word.length)
  let right := shared b word * (a.length + word.length)
  decide (right < left) || (left == right && decide (b ≤ a))

/-- The candidates that are close to a word, three at most, the closest first. -/
def closest (word : String) (candidates : List String) : List String :=
  ((candidates.filter fun c => isClose c word).mergeSort (isCloser word)).take 3

end SourceAudit.Text
