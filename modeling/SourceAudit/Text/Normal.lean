/-
The normal form of identifiers: two spellings that differ only in compatible
forms of the same characters, or in how marks are put together with letters,
have one normal form.

A text is taken apart into the characters it is made of, the marks after each
letter are put in the order of their classes, and letters and marks that make
one character are put together again. Syllables of Hangul follow a formula;
the rest is by table.
-/
import SourceAudit.Text.Normal.Table
import SourceAudit.Text.Table

namespace SourceAudit.Text

-- ============================================================== tables

/-- The runs of characters that entries list after a last one, with the parts that the first
of each is made of. Where the parts are one, they advance with the characters of the run. -/
def runsFrom (last : Nat) : List (List Char × List Char) → List ((Nat × Nat) × List Nat)
  | [] => []
  | (key, images) :: rest =>
    let run := tableRun last key
    let each := tableImages images
    each.mapIdx (fun i parts => ((run.1 + i, run.2 + i), parts)) ++
      runsFrom (run.2 + (each.length - 1)) rest

/-- The runs of characters that a table lists, with their parts. -/
def runsIn (table : String) : List ((Nat × Nat) × List Nat) :=
  runsFrom 0 (tableEntries table)

/-- The characters that are put together again, with their parts. -/
def wholes : List (Nat × List Nat) :=
  (runsIn wholeTable).map fun (run, parts) => (run.1, parts)

/-- Runs of all characters that are made of others. -/
def partRuns : List ((Nat × Nat) × List Nat) :=
  runsIn wholeTable ++ runsIn partTable

def markRuns : List ((Nat × Nat) × Nat) :=
  (runsIn markTable).map fun (run, parts) => (run, parts.headD 0)

/-- The pairs that make one character, with it: the last of its parts comes to what the
others make. -/
def pairs : List (List Nat × Nat) :=
  wholes.filterMap fun (whole, parts) => do
    let last ← parts.getLast?
    let front ← match parts.dropLast with
      | [only] => some only
      | several => (wholes.find? (·.2 == several)).map (·.1)
    return ([front, last], whole)

-- =========================================================== syllables

/-- The parts of a syllable of Hangul: the first consonant, the vowel and, unless
the syllable is open, the last consonant. -/
def syllableParts (n : Nat) : List Nat :=
  let index := n - 0xAC00
  let opened := [0x1100 + index / 588, 0x1161 + index % 588 / 28]
  if index % 28 == 0 then opened else opened ++ [0x11A7 + index % 28]

/-- The syllable that a first consonant makes with a vowel, or an open syllable
with a last consonant. -/
def syllable? (a b : Nat) : Option Nat :=
  if 0x1100 ≤ a && a < 0x1113 && 0x1161 ≤ b && b < 0x1176 then
    some (0xAC00 + ((a - 0x1100) * 21 + (b - 0x1161)) * 28)
  else if 0xAC00 ≤ a && a ≤ 0xD7A3 && (a - 0xAC00) % 28 == 0 && 0x11A7 < b && b < 0x11C3 then
    some (a + (b - 0x11A7))
  else none

-- ========================================================= normal form

/-- The characters a code point is made of. -/
def parts (n : Nat) : List Nat :=
  if n < 0x80 then [n]
  else if 0xAC00 ≤ n && n ≤ 0xD7A3 then syllableParts n
  else
    match partRuns.find? fun run => run.1.1 ≤ n && n ≤ run.1.2 with
    | some (run, [image]) => [image + (n - run.1)]
    | some (_, images) => images
    | none => [n]

def markClass (n : Nat) : Nat :=
  if n < 0x300 then 0
  else ((markRuns.find? fun run => run.1.1 ≤ n && n ≤ run.1.2).map (·.2)).getD 0

/-- The character that two make together. -/
def joined? (a b : Nat) : Option Nat :=
  syllable? a b <|> (pairs.lookup [a, b])

/-- Puts a mark, with its class, in front of marks of higher classes at the end
of the text so far, which is held backwards. -/
def putMark (mark : Nat × Nat) : List (Nat × Nat) → List (Nat × Nat)
  | [] => [mark]
  | last :: before =>
    if mark.2 != 0 && mark.2 < last.2 then last :: putMark mark before else mark :: last :: before

/-- Characters with their classes, the marks in order, the last first. -/
def inMarkOrder (ns : List Nat) : List (Nat × Nat) :=
  ns.foldl (fun done n => putMark (n, markClass n) done) []

/-- What has been put together: all before the last letter, that letter if there
is one, and the marks after it, which could not be joined to it; all backwards. -/
structure Joining where
  before : List Nat := []
  letter : Option Nat := none
  marks : List (Nat × Nat) := []

/-- All characters put together, backwards. -/
def Joining.chars (j : Joining) : List Nat :=
  j.marks.map (·.1) ++ j.letter.toList ++ j.before

/-- Puts the next character to the text. It joins the last letter unless a mark
of no lower class stands between the two. -/
def Joining.put (j : Joining) (c : Nat × Nat) : Joining :=
  let free := match j.marks with
    | [] => true
    | (_, last) :: _ => last < c.2
  match j.letter.filter (fun _ => free) |>.bind (joined? · c.1) with
  | some whole => { j with letter := some whole }
  | none =>
    if c.2 == 0 then ⟨j.chars, some c.1, []⟩
    else { j with marks := c :: j.marks }

def normalForm (s : String) : String :=
  if s.toList.all (·.toNat < 0x80) then s
  else
    let ordered := (inMarkOrder (s.toList.flatMap (parts ·.toNat))).reverse
    String.ofList (((ordered.foldl Joining.put {}).chars.reverse).map Char.ofNat)

end SourceAudit.Text
