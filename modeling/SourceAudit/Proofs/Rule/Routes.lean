/-
Which uses of a request's body are reported.

The rule goes through a file once and remembers the route it is in. What it
remembers at a line is the route that is open there: the last one begun before
the line, if no line in between ends it (`RouteOpen`). That holds before the
first line, and each line keeps it (`Remembers.step`), whichever of the three
ways the line is taken in. So what is said about a line can be read off the
lines around it (`remarkOn_eq`), and the whole run reports just the lines that
use a body without validation (`unvalidatedFrom_eq`).
-/
import SourceAudit.Proofs.Rule.Reporting
import SourceAudit.Rule.Node

namespace SourceAudit.Rule

-- ========================================================== vocabulary

/-- The line with a number, lines being numbered from one on, is of a kind. -/
def LineIs (kind : String → Bool) (lines : List String) (number : Nat) : Prop :=
  ∃ line, 1 ≤ number ∧ lines[number - 1]? = some line ∧ kind line = true

/-- The first line of a route. -/
def beginsRoute (line : String) : Bool :=
  routePattern.occursIn line

/-- A line that ends a route. -/
def endsRoute (line : String) : Bool :=
  Text.trim line == "\x7d);"

/-- At a line the route is open that begins at `first`: it is the last one begun
before the line, and no line in between ends it. -/
structure RouteOpen (lines : List String) (number first : Nat) : Prop where
  before : first < number
  begins : LineIs beginsRoute lines first
  last : ∀ k, first < k → k < number → ¬LineIs beginsRoute lines k
  unended : ∀ k, first < k → k < number → ¬LineIs endsRoute lines k

/-- A line inside a route that uses the body of the request, with no sign of
validation from the start of the route to ten lines further on. -/
structure Unvalidated (lines : List String) (number : Nat) : Prop where
  inside : ¬LineIs beginsRoute lines number
  uses : LineIs bodyUsePattern.occursIn lines number
  exposed : ∃ first, RouteOpen lines number first ∧
    ∀ k, first ≤ k → k ≤ min (number + 10) lines.length →
      ¬LineIs validationPattern.occursIn lines k

section Lines

variable {kind : String → Bool} {lines : List String} {number : Nat}
    {line : String}

theorem lineIs_iff (h : lines[number]? = some line) :
    LineIs kind lines (number + 1) ↔ kind line = true := by
  constructor
  · rintro ⟨found, -, hfound, hkind⟩
    rw [Nat.add_sub_cancel, h] at hfound
    rwa [Option.some.inj hfound]
  · intro hkind
    exact ⟨line, by omega, h, hkind⟩

theorem LineIs.le_length (h : LineIs kind lines number) :
    number ≤ lines.length := by
  obtain ⟨line, hone, hline, -⟩ := h
  have hlt := (List.getElem?_eq_some_iff.1 hline).1
  omega

end Lines

/-- Some line of a stretch shows validation. The stretch ends with the file at
the latest. -/
theorem validatedBetween_iff {lines : List String} {first last : Nat}
    (hfirst : 1 ≤ first) :
    validatedBetween lines first last = true ↔
      ∃ k, first ≤ k ∧ k ≤ min last lines.length ∧
      LineIs validationPattern.occursIn lines k := by
  unfold validatedBetween
  rw [List.any_eq_true]
  constructor
  · rintro ⟨line, hmem, hshows⟩
    obtain ⟨i, hi⟩ := List.mem_iff_getElem?.1 hmem
    rw [List.getElem?_drop, List.getElem?_take] at hi
    split at hi
    · have hlt := (List.getElem?_eq_some_iff.1 hi).1
      refine ⟨first - 1 + i + 1, by omega, by omega, ?_⟩
      exact (lineIs_iff hi).2 hshows
    · cases hi
  · rintro ⟨k, hle, hlast, line, hone, hline, hshows⟩
    refine ⟨line, List.mem_iff_getElem?.2 ⟨k - first, ?_⟩, hshows⟩
    rw [List.getElem?_drop, List.getElem?_take, if_pos (by omega), ← hline]
    congr 1
    omega

-- =============================================================== steps

/-- The route that is remembered after a line. -/
def routeAfter (route : Option Nat) (number : Nat) (line : String) :
    Option Nat :=
  if beginsRoute line then some number else if endsRoute line then none
    else route

/-- What is said about a line. -/
def remarkOn (whole : List String) (route : Option Nat) (number : Nat)
    (line : String) : List Remark :=
  if beginsRoute line then []
  else
    match route with
    | some first =>
      if bodyUsePattern.occursIn line &&
        !validatedBetween whole first (number + 10) then
        [⟨number, Text.trim line, unvalidatedNote⟩]
      else []
    | none => []

theorem unvalidatedFrom_cons (whole : List String) (route : Option Nat)
    (number : Nat) (line : String) (rest : List String) :
    unvalidatedFrom whole route number (line :: rest)
      = remarkOn whole route number line
        ++ unvalidatedFrom whole (routeAfter route number line)
          (number + 1) rest := by
  rw [unvalidatedFrom.eq_def, remarkOn.eq_def, routeAfter]
  by_cases hbegins : routePattern.occursIn line = true
  · simp only [beginsRoute, hbegins, if_true, List.nil_append]
  · simp only [beginsRoute, hbegins, if_false, Bool.false_eq_true]
    rfl

/-- What is remembered before a line is the route that is open there. -/
def Remembers (whole : List String) (route : Option Nat)
    (number : Nat) : Prop :=
  ∀ first, route = some first ↔ RouteOpen whole number first

variable {whole : List String} {route : Option Nat} {before : Nat}
    {line : String}

theorem remembers_start (whole : List String) : Remembers whole none 1 := by
  intro first
  constructor
  · intro h
    cases h
  · rintro ⟨hbefore, ⟨_, hone, -⟩, -, -⟩
    omega

/-- A route is open after a line if it begins there, or if it was open before
and the line neither begins another nor ends it. -/
theorem routeOpen_succ_iff (h : whole[before]? = some line) (first : Nat) :
    RouteOpen whole (before + 2) first ↔
      (first = before + 1 ∧ beginsRoute line = true) ∨
        (RouteOpen whole (before + 1) first ∧ beginsRoute line = false ∧
          endsRoute line = false) := by
  constructor
  · rintro ⟨hbefore, hbegins, hlast, hunended⟩
    by_cases hfirst : first = before + 1
    · subst hfirst
      exact .inl ⟨rfl, (lineIs_iff h).1 hbegins⟩
    · have hearlier : first < before + 1 := by omega
      have hnoRoute := hlast (before + 1) hearlier (by omega)
      have hnoEnd := hunended (before + 1) hearlier (by omega)
      rw [lineIs_iff h, Bool.not_eq_true] at hnoRoute hnoEnd
      refine .inr ⟨⟨hearlier, hbegins, ?_, ?_⟩, hnoRoute, hnoEnd⟩
      · intro k hk hk'
        exact hlast k hk (by omega)
      · intro k hk hk'
        exact hunended k hk (by omega)
  · rintro (⟨rfl, hbegins⟩ | ⟨⟨hbefore, hbegins, hlast, hunended⟩,
      hnoRoute, hnoEnd⟩)
    · refine ⟨by omega, (lineIs_iff h).2 hbegins, ?_, ?_⟩
      · intro k hk hk'
        omega
      · intro k hk hk'
        omega
    · -- a line before this one, or this one
      have hsplit (k : Nat) (hk : k < before + 2) :
          k < before + 1 ∨ k = before + 1 := by omega
      refine ⟨by omega, hbegins, ?_, ?_⟩
      · intro k hk hk'
        rcases hsplit k hk' with hk' | rfl
        · exact hlast k hk hk'
        · rw [lineIs_iff h, hnoRoute]
          exact Bool.false_ne_true
      · intro k hk hk'
        rcases hsplit k hk' with hk' | rfl
        · exact hunended k hk hk'
        · rw [lineIs_iff h, hnoEnd]
          exact Bool.false_ne_true

/-- A line keeps what is remembered right. -/
theorem Remembers.step (hroute : Remembers whole route (before + 1))
    (h : whole[before]? = some line) :
    Remembers whole (routeAfter route (before + 1) line) (before + 2) := by
  intro first
  rw [routeOpen_succ_iff h, ← hroute first, routeAfter]
  cases hbegins : beginsRoute line with
  | true =>
      simp only [if_true, Option.some.injEq, and_true, Bool.true_eq_false,
        false_and, and_false, or_false]
      exact eq_comm
  | false =>
      cases hends : endsRoute line with
      | true => simp
      | false => simp

/-- Whether a line is reported shows in the route that is remembered. -/
theorem unvalidated_iff (hroute : Remembers whole route (before + 1))
    (h : whole[before]? = some line) :
    Unvalidated whole (before + 1) ↔
      beginsRoute line = false ∧ bodyUsePattern.occursIn line = true ∧
        ∃ first, route = some first ∧
        validatedBetween whole first (before + 11) = false := by
  have hexposed {first : Nat} (hopen : RouteOpen whole (before + 1) first) :
      validatedBetween whole first (before + 11) = false ↔
        ∀ k, first ≤ k → k ≤ min (before + 11) whole.length →
          ¬LineIs validationPattern.occursIn whole k := by
    obtain ⟨_, hone, -⟩ := hopen.begins
    rw [← Bool.not_eq_true, validatedBetween_iff hone]
    simp only [not_exists, not_and]
  constructor
  · rintro ⟨hinside, huses, first, hopen, hnone⟩
    rw [lineIs_iff h, Bool.not_eq_true] at hinside
    exact ⟨hinside, (lineIs_iff h).1 huses, first, (hroute first).2 hopen,
      (hexposed hopen).2 hnone⟩
  · rintro ⟨hinside, huses, first, hfirst, hnone⟩
    have hopen := (hroute first).1 hfirst
    refine ⟨?_, (lineIs_iff h).2 huses, first, hopen, (hexposed hopen).1 hnone⟩
    rw [lineIs_iff h, hinside]
    exact Bool.false_ne_true

-- ================================================================= run

/-- What is said about a line that is reported. -/
def bodyUse (whole : List String) (number : Nat) : Remark :=
  ⟨number, Text.trim (whole.getD (number - 1) ""), unvalidatedNote⟩

open Classical in
/-- What is said about a line is decided by the lines around it. -/
theorem remarkOn_eq (hroute : Remembers whole route (before + 1))
    (h : whole[before]? = some line) :
    remarkOn whole route (before + 1) line
      = if Unvalidated whole (before + 1) then [bodyUse whole (before + 1)]
        else [] := by
  have hline : whole.getD (before + 1 - 1) "" = line := by
    rw [Nat.add_sub_cancel, List.getD_eq_getElem?_getD, h, Option.getD_some]
  rw [bodyUse, hline, remarkOn.eq_def]
  simp only [unvalidated_iff hroute h]
  cases hbegins : beginsRoute line with
  | true => simp
  | false =>
      cases route with
      | none => simp
      | some first => simp

open Classical in
/-- A run over the rest of a file reports the lines of the rest that use a body
without validation, in order. -/
theorem unvalidatedFrom_eq {rest : List String}
    (hroute : Remembers whole route (before + 1))
    (hrest : whole.drop before = rest) :
    unvalidatedFrom whole route (before + 1) rest
      = ((List.range' (before + 1) rest.length).filter
        (Unvalidated whole ·)).map
          (bodyUse whole) := by
  induction rest generalizing route before with
  | nil => rfl
  | cons line rest ih =>
      have hline : whole[before]? = some line := by
        rw [← List.head?_drop, hrest]
        rfl
      have hlater : whole.drop (before + 1) = rest := by
        rw [← List.tail_drop, hrest]
        rfl
      rw [unvalidatedFrom_cons, remarkOn_eq hroute hline,
        ih (hroute.step hline) hlater, List.length_cons, List.range'_succ,
        List.filter_cons]
      by_cases hunvalidated : Unvalidated whole (before + 1)
      · simp [hunvalidated]
      · simp [hunvalidated]

/-- A use of a request's body is reported just if it is inside a route, which is
the last one begun before it and has not been ended since, and no line from the
start of the route to ten lines further on, or to the end of the file, shows
validation. Each is reported once, and in the order of the lines. -/
theorem body_uses_reported_iff (path : String) (source : Source) :
    ∃ numbers : List Nat, numbers.Pairwise (· < ·) ∧
      (∀ number, number ∈ numbers ↔
        Unvalidated (Text.splitLines source.text) number) ∧
      inputValidation.check true path (some source)
        = numbers.map fun number =>
          inputValidation.finding path
            (bodyUse (Text.splitLines source.text) number) := by
  classical
  generalize hlines : Text.splitLines source.text = lines
  refine ⟨(List.range' 1 lines.length).filter (Unvalidated lines ·), ?_, ?_, ?_⟩
  · exact List.Pairwise.filter _ List.pairwise_lt_range'
  · intro number
    rw [List.mem_filter, List.mem_range'_1, decide_eq_true_iff]
    constructor
    · exact And.right
    · intro hunvalidated
      obtain ⟨_, hone, -⟩ := hunvalidated.uses
      have hle := hunvalidated.uses.le_length
      exact ⟨⟨hone, by omega⟩, hunvalidated⟩
  · have hrun : inputValidation.inspection.remarks source
        = unvalidatedFrom lines none 1 lines := by
      rw [← hlines]
      rfl
    rw [check_eq_map, hrun,
      unvalidatedFrom_eq (remembers_start lines) List.drop_zero, List.map_map]
    rfl

-- the same use is reported in the route and not after it
example : (inputValidation.check true "a.js" (some ⟨Text.encode
    "app.get(a, (req) => \x7b\nreq.body.q\n\x7d);\nreq.body.q"⟩)).map
      (fun f => f.line.asInt?) = [some 2] := by
  decide +kernel

end SourceAudit.Rule
