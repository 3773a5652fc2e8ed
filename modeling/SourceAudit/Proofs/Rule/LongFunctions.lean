/-
Long functions as stretches of lines.

A file is cut into functions first, and the limit only chooses among them: where
a function starts and ends does not depend on it (`longFunctionsFrom_eq`). A
function ends before the next one starts, before a line that is indented no
further, or with the file. Whichever it is, a run that has come to a line has
closed only functions that end before it, and the one that is open starts before
it; so functions follow one another without sharing a line
(`functionsFrom_within`, `functionsFrom_apart`).
-/
import SourceAudit.Proofs.Rule.Reporting
import SourceAudit.Rule.Quality

namespace SourceAudit.Rule

-- ============================================================== blocks

/-- A function as it is reported: its name, its first line and how many lines it
has. -/
structure Block where
  name : String
  first : Int
  length : Int
  deriving DecidableEq, Repr

namespace Block

/-- The last line of a block. -/
def last (b : Block) : Int :=
  b.first + b.length - 1

/-- Whether a block covers the line with a number. -/
def covers (number : Int) (b : Block) : Bool :=
  b.first ≤ number && number ≤ b.last

/-- Blocks that come one after another cover a line once at most. -/
theorem countP_covers_le {blocks : List Block}
    (h : blocks.Pairwise fun b c => b.last < c.first) (number : Int) :
    blocks.countP (covers number) ≤ 1 := by
  induction h with
  | nil => simp
  | @cons b rest hb _ ih =>
      by_cases hcovers : b.covers number = true
      · have hnone : rest.countP (covers number) = 0 := by
          rw [List.countP_eq_zero]
          intro c hc hcovers'
          have hafter := hb c hc
          simp only [covers, Bool.and_eq_true,
            decide_eq_true_eq] at hcovers hcovers'
          omega
        simp [List.countP_cons_of_pos hcovers, hnone]
      · rw [List.countP_cons_of_neg hcovers]
        exact ih

end Block

/-- The function that a finding tells of. -/
def blockOf? (f : Finding) : Option Block := do
  let first ← f.line.asInt?
  let name ← (f.metadata.get? "function_name").bind Value.asText?
  let length ← (f.metadata.get? "length").bind Value.asInt?
  return ⟨name, first, length⟩

/-- The functions that are reported of a file. -/
def reportedBlocks (limit : Int) (path : String) (source : Source) :
    List (Option Block) :=
  ((longFunction limit).check true path (some source)).map blockOf?

-- =========================================================== functions

/-- Whether a function ends before a line. -/
def OpenFunction.endsBefore (f : OpenFunction) (number : Nat)
    (line : String) : Bool :=
  !(Text.trim line).isEmpty && indentOf line ≤ f.indent && f.start + 1 < number

/-- The function that ends before a line: the open one, if another starts there
or the line is indented no further. -/
def endedBefore (openOne : Option OpenFunction) (number : Nat) (line : String) :
    Option OpenFunction :=
  if (functionName? line).isSome then openOne
  else openOne.filter fun f => f.endsBefore number line

/-- The function that is open after a line. -/
def openAfter (openOne : Option OpenFunction) (number : Nat) (line : String) :
    Option OpenFunction :=
  match functionName? line with
  | some name => some ⟨name, number, indentOf line, line⟩
  | none => openOne.filter fun f => !f.endsBefore number line

/-- The functions of lines that are numbered from `number` on, each with its
last line. One may be open from before. -/
def functionsFrom (openOne : Option OpenFunction) :
    Nat → List String → List (OpenFunction × Nat)
  | number, [] => (openOne.map fun f => (f, number - 1)).toList
  | number, line :: rest =>
    ((endedBefore openOne number line).map fun f => (f, number - 1)).toList ++
      functionsFrom (openAfter openOne number line) (number + 1) rest

/-- The remarks on functions that have ended. -/
def remarksOn (limit : Int) (ended : List (OpenFunction × Nat)) : List Remark :=
  ended.filterMap fun e => e.1.remark? limit e.2

theorem remarksOn_toList (limit : Int) (openOne : Option OpenFunction)
    (last : Nat) :
    remarksOn limit (openOne.map fun f => (f, last)).toList
      = (openOne.bind fun f => f.remark? limit last).toList := by
  cases openOne with
  | none => rfl
  | some f =>
      show [(f, last)].filterMap _ = _
      rw [List.filterMap_cons]
      cases hremark : f.remark? limit last <;> simp [hremark]

/-- The limit only chooses among the functions. -/
theorem longFunctionsFrom_eq (limit : Int) (openOne : Option OpenFunction)
    (number : Nat) (lines : List String) :
    longFunctionsFrom limit openOne number lines
      = remarksOn limit (functionsFrom openOne number lines) := by
  induction lines generalizing openOne number with
  | nil => exact (remarksOn_toList limit openOne (number - 1)).symm
  | cons line rest ih =>
      have hsplit :
        remarksOn limit (functionsFrom openOne number (line :: rest))
          = ((endedBefore openOne number line).bind fun f =>
            f.remark? limit (number - 1)).toList
            ++ longFunctionsFrom limit (openAfter openOne number line) (number +
              1) rest := by
        rw [functionsFrom, ih, ← remarksOn_toList]
        exact List.filterMap_append
      rw [hsplit, longFunctionsFrom]
      unfold endedBefore openAfter
      cases hname : functionName? line with
      | some name =>
          -- a function does not end on the line it starts on
          have hstays : ¬(number + 1 < number) := by omega
          simp only [hstays, decide_false, Bool.and_false,
            Bool.false_eq_true, if_false, Option.isSome_some, if_true]
      | none =>
          cases openOne with
          | none => rfl
          | some f =>
              have hends :
                (!(Text.trim line).isEmpty &&
                  decide (indentOf line ≤ f.indent) &&
                    decide (f.start + 1 < number))
                      = f.endsBefore number line := rfl
              simp only [hends]
              cases hcase : f.endsBefore number line with
              | true => simp [Option.filter, hcase]
              | false => simp [Option.filter, hcase]

-- ========================================================== one by one

variable {openOne : Option OpenFunction} {number : Nat}

/-- What a line can do to the function that is open: another starts there and it
ends, it goes on, or it ends and none is open. -/
theorem step_cases (openOne : Option OpenFunction) (number : Nat)
    (line : String) :
    (∃ f, f.start = number ∧ endedBefore openOne number line = openOne ∧
        openAfter openOne number line = some f) ∨
      (endedBefore openOne number line = none ∧
        openAfter openOne number line = openOne) ∨
      (endedBefore openOne number line = openOne ∧
        openAfter openOne number line = none) := by
  unfold endedBefore openAfter
  cases functionName? line with
  | some name => exact .inl ⟨_, rfl, rfl, rfl⟩
  | none =>
      cases openOne with
      | none => exact .inr (.inl ⟨rfl, rfl⟩)
      | some f =>
          cases hends : f.endsBefore number line with
          | true => exact .inr (.inr (by simp [Option.filter, hends]))
          | false => exact .inr (.inl (by simp [Option.filter, hends]))

/-- A function that is open started before the line a run has come to. -/
def OpensBefore (openOne : Option OpenFunction) (number : Nat) : Prop :=
  ∀ f, openOne = some f → f.start < number

/-- The first line that a run has not given to a function that has ended. -/
def frontier (openOne : Option OpenFunction) (number : Nat) : Nat :=
  (openOne.map OpenFunction.start).getD number

theorem frontier_some (f : OpenFunction) (number : Nat) :
    frontier (some f) number = f.start := rfl

theorem frontier_none (number : Nat) : frontier none number = number := rfl

theorem OpensBefore.frontier_le (h : OpensBefore openOne number) :
    frontier openOne number ≤ number := by
  cases openOne with
  | none => exact Nat.le_refl number
  | some f => exact Nat.le_of_lt (h f rfl)

theorem OpensBefore.step (h : OpensBefore openOne number) (line : String) :
    OpensBefore (openAfter openOne number line) (number + 1) := by
  rcases step_cases openOne number line with ⟨f, hstart, -, hafter⟩ | ⟨-,
    hafter⟩ | ⟨-, hafter⟩
  · rw [hafter]
    intro g hg
    obtain rfl := Option.some.inj hg
    omega
  · rw [hafter]
    intro g hg
    have hg' := h g hg
    omega
  · rw [hafter]
    intro g hg
    cases hg

/-- A line never takes a line back from the functions that have ended. -/
theorem OpensBefore.frontier_step (h : OpensBefore openOne number)
    (line : String) :
    frontier openOne number ≤ frontier (openAfter openOne number line)
      (number + 1) := by
  have hle := h.frontier_le
  rcases step_cases openOne number line with ⟨f, hstart, -, hafter⟩ | ⟨-,
    hafter⟩ | ⟨-, hafter⟩
  · rw [hafter, frontier_some, hstart]
    exact hle
  · rw [hafter]
    cases openOne with
    | none => exact Nat.le_succ number
    | some f => exact Nat.le_refl f.start
  · rw [hafter, frontier_none]
    omega

/-- If a function ends before a line, what is left begins with that line or
after it. -/
theorem number_le_frontier {line : String} {f : OpenFunction}
    (h : endedBefore openOne number line = some f) :
    number ≤ frontier (openAfter openOne number line) (number + 1) := by
  rcases step_cases openOne number line with ⟨g, hstart, -, hafter⟩ | ⟨hended,
    -⟩ | ⟨-, hafter⟩
  · simp [hafter, frontier_some, hstart]
  · rw [hended] at h
    cases h
  · rw [hafter, frontier_none]
    exact Nat.le_succ number

/-- A function that ends before a line was open there. -/
theorem eq_of_endedBefore {line : String} {f : OpenFunction}
    (h : endedBefore openOne number line = some f) : openOne = some f := by
  rcases step_cases openOne number line with ⟨g, -, hended, -⟩ | ⟨hended,
    -⟩ | ⟨hended, -⟩
  · exact hended.symm.trans h
  · rw [hended] at h
    cases h
  · exact hended.symm.trans h

/-- Functions begin where the run has come to or later, end no earlier than they
begin, and lie within the lines. -/
theorem functionsFrom_within {lines : List String}
    (h : OpensBefore openOne number) {e : OpenFunction × Nat}
    (he : e ∈ functionsFrom openOne number lines) :
    frontier openOne number ≤ e.1.start ∧ e.1.start ≤ e.2 ∧
      e.2 < number + lines.length := by
  -- a function that is open, when it ends before the line at hand
  have hended {openOne : Option OpenFunction} {number : Nat}
    (h : OpensBefore openOne number)
      {f : OpenFunction} (hf : openOne = some f) :
      frontier openOne number ≤ f.start ∧ f.start ≤ number - 1 ∧
        number - 1 < number := by
    have hstart := h f hf
    rw [hf, frontier_some]
    omega
  induction lines generalizing openOne number with
  | nil =>
      obtain ⟨f, hf, rfl⟩ := Option.map_eq_some_iff.1 (Option.mem_toList.1 he)
      exact hended h hf
  | cons line rest ih =>
      rw [functionsFrom] at he
      rw [List.length_cons]
      rcases List.mem_append.1 he with hhere | hlater
      · obtain ⟨f, hf, rfl⟩ :=
          Option.map_eq_some_iff.1 (Option.mem_toList.1 hhere)
        obtain ⟨hfirst, hlast, hbefore⟩ := hended h (eq_of_endedBefore hf)
        exact ⟨hfirst, hlast, by omega⟩
      · obtain ⟨hfirst, hlast, hbefore⟩ := ih (h.step line) hlater
        have hfrontier := h.frontier_step line
        exact ⟨by omega, hlast, by omega⟩

/-- Each function ends before the next one begins. -/
theorem functionsFrom_apart {lines : List String}
    (h : OpensBefore openOne number) :
    (functionsFrom openOne number lines).Pairwise fun e e' =>
      e.2 < e'.1.start := by
  induction lines generalizing openOne number with
  | nil =>
      cases openOne with
      | none => exact List.Pairwise.nil
      | some f => exact List.pairwise_singleton _ _
  | cons line rest ih =>
      rw [functionsFrom]
      cases hended : endedBefore openOne number line with
      | none => exact ih (h.step line)
      | some f =>
          refine List.Pairwise.cons ?_ (ih (h.step line))
          intro e he
          have hfirst := (functionsFrom_within (h.step line) he).1
          have hfrontier := number_le_frontier hended
          have hstart := h f (eq_of_endedBefore hended)
          show number - 1 < e.1.start
          omega

-- ============================================================= reports

/-- A function and its last line as a block. -/
def OpenFunction.block (f : OpenFunction) (last : Nat) : Block :=
  ⟨f.name, f.start, (last : Int) - f.start + 1⟩

/-- What is reported of a function that has ended is its block, if it is long
enough. -/
theorem blockOf?_remark? (rule : Rule) (path : String) (limit : Int)
    (f : OpenFunction) (last : Nat) :
    (f.remark? limit last).map (fun r => blockOf? (rule.finding path r))
      = if limit < (f.block last).length then some (some (f.block last))
        else none := by
  have hlength : (f.block last).length = (last : Int) - f.start + 1 := rfl
  unfold OpenFunction.remark?
  rw [hlength]
  by_cases hlong : limit < (last : Int) - f.start + 1
  · rw [if_pos hlong, if_pos hlong]
    rfl
  · rw [if_neg hlong, if_neg hlong]
    rfl

/-- The blocks of all functions of a file, long or not. -/
def blocksOf (source : Source) : List Block :=
  (functionsFrom none 1 (Text.readLines source.text)).map fun e => e.1.block e.2

/-- What is reported of a file are the blocks of its functions that are long
enough. -/
theorem reportedBlocks_eq (limit : Int) (path : String) (source : Source) :
    reportedBlocks limit path source
      = ((blocksOf source).filter fun b => limit < b.length).map some := by
  have hrun : (longFunction limit).inspection.remarks source
      = remarksOn limit (functionsFrom none 1 (Text.readLines source.text)) :=
    longFunctionsFrom_eq limit none 1 _
  rw [reportedBlocks, check_eq_map, hrun, List.map_map, remarksOn,
    List.map_filterMap, blocksOf]
  simp only [Function.comp_def, blockOf?_remark?]
  generalize functionsFrom none 1 (Text.readLines source.text) = ended
  induction ended with
  | nil => rfl
  | cons e rest ih =>
      rw [List.filterMap_cons, List.map_cons, List.filter_cons, ih]
      by_cases hlong : limit < (e.1.block e.2).length
      · simp [hlong]
      · simp [hlong]

theorem apart_blocksOf (source : Source) :
    (blocksOf source).Pairwise fun b c => b.last < c.first := by
  have hstart : OpensBefore none 1 := fun f hf => nomatch hf
  unfold blocksOf
  rw [List.pairwise_map]
  refine (functionsFrom_apart hstart).imp ?_
  intro e e' hbefore
  show (e.1.start : Int) + ((e.2 : Int) - e.1.start + 1) - 1 < e'.1.start
  omega

theorem within_blocksOf {source : Source} {b : Block}
    (hb : b ∈ blocksOf source) :
    1 ≤ b.first ∧ b.last ≤ (Text.readLines source.text).length := by
  have hstart : OpensBefore none 1 := fun f hf => nomatch hf
  obtain ⟨e, he, rfl⟩ := List.mem_map.1 hb
  obtain ⟨hfirst, -, hlast⟩ := functionsFrom_within hstart he
  rw [frontier_none] at hfirst
  constructor
  · show (1 : Int) ≤ e.1.start
    omega
  · show (e.1.start : Int) + ((e.2 : Int) - e.1.start + 1) - 1 ≤ _
    omega

/-- The functions that are reported of a file have more lines than the limit,
lie within the file and follow one another, so no line is counted twice. A
higher limit only leaves some of them out. -/
theorem long_functions_apart (path : String) (source : Source) (limit : Int) :
    ∃ blocks : List Block,
      reportedBlocks limit path source = blocks.map some ∧
      (∀ b ∈ blocks, limit < b.length ∧ 1 ≤ b.first ∧
        b.last ≤ (Text.readLines source.text).length) ∧
      (blocks.Pairwise fun b c => b.last < c.first) ∧
      (∀ number, blocks.countP (Block.covers number) ≤ 1) ∧
      ∀ higher, limit ≤ higher →
        reportedBlocks higher path source
          = (blocks.filter fun b => higher < b.length).map some := by
  have hapart : ((blocksOf source).filter fun b => limit < b.length).Pairwise
      fun b c => b.last < c.first := (apart_blocksOf source).filter _
  refine ⟨_, reportedBlocks_eq limit path source, ?_, hapart,
    Block.countP_covers_le hapart, ?_⟩
  · intro b hb
    obtain ⟨hmem, hlong⟩ := List.mem_filter.1 hb
    exact ⟨of_decide_eq_true hlong, within_blocksOf hmem⟩
  · intro higher hle
    rw [reportedBlocks_eq, List.filter_filter]
    congr 1
    refine List.filter_congr ?_
    intro b _
    by_cases hlong : higher < b.length
    · have hlong' : limit < b.length := by omega
      simp [hlong, hlong']
    · simp [hlong]

/-- A function inside another, and a line after both. -/
def nestedFunctions : Source :=
  ⟨Text.encode "def f():\n  def g():\n    a\n    b\n  c\nx\n"⟩

/-- The outer function ends where the inner one starts, and the inner one where
the outer one goes on. Of the two only the inner one has more than two lines. -/
theorem long_functions_apart_nested :
    (0 : Int) ≤ 2 ∧
      reportedBlocks 0 "a.py" nestedFunctions = [some ⟨"f", 1, 1⟩,
        some ⟨"g", 2, 3⟩] ∧
      reportedBlocks 2 "a.py" nestedFunctions = [some ⟨"g", 2, 3⟩] := by
  obtain ⟨blocks, hreported, -, -, -, hhigher⟩ :=
    long_functions_apart "a.py" nestedFunctions 0
  have hboth : reportedBlocks 0 "a.py" nestedFunctions
      = [Block.mk "f" 1 1, ⟨"g", 2, 3⟩].map some := by
    decide +kernel
  have hblocks : blocks = [⟨"f", 1, 1⟩, ⟨"g", 2, 3⟩] := by
    rw [hreported] at hboth
    exact (List.map_inj_right fun _ _ => Option.some.inj).1 hboth
  refine ⟨by decide, hboth, ?_⟩
  rw [hhigher 2 (by decide), hblocks]
  decide

end SourceAudit.Rule
