/-
Code after a return statement is never reported.

The pattern for it asks for a line feed with something behind it
(`afterReturn_occursIn_iff`). The rule tries it on one line at a time, and a
line as it is read from a file has a line feed at its end alone, if at all
(`lineFeed_not_mem_dropLast`). The blanks of the pattern can cover that line
feed, but then there is no other one left to ask for. The other signs that the
rule knows lead to no remark wherever they occur (`remark?_of_other`).
-/
import SourceAudit.Proofs.Pattern.Words
import SourceAudit.Proofs.Text.Places
import SourceAudit.Rule.Quality

namespace SourceAudit

-- ============================================================= pattern

namespace Pattern

/-- The expression of blanks, as many as are needed at least. -/
def blanks (least : Nat) : Expr :=
  .repeated (.set false [.blank]) least none

theorem reads_blanks {ignoreCase : Bool} {least : Nat} {cs : List Char} :
    (blanks least).Reads ignoreCase cs ↔
      least ≤ cs.length ∧ ∀ c ∈ cs, Text.isBlank c = true :=
  reads_repeated_chars fun cs => by simp [Expr.Reads, SetItem.holds]

end Pattern

namespace Rule

open Pattern

/-- A return statement with its value, a line feed, and the line behind it up to
something that is no blank. The blanks that set the value apart may be line
feeds themselves. -/
inductive ReturnAndMore : List Char → Prop
  | intro {indent apart value more : List Char} {c : Char}
      (hindent : ∀ x ∈ indent, Text.isBlank x = true) (hapart : apart ≠ [])
      (hblank : ∀ x ∈ apart, Text.isBlank x = true) (hvalue : '\n' ∉ value)
      (hmore : '\n' ∉ more) (hc : Text.isBlank c = false) :
      ReturnAndMore (indent ++ "return".toList ++ apart ++ value ++ ['\n'] ++
        more ++ [c])

/-- The expressions of the pattern for code after a return statement, from the
start on. -/
def afterReturnRow : List Expr :=
  [blanks 0] ++ "return".toList.map letter ++
    [blanks 1, gap, letter '\n', gap, .set false [.notBlank]]

theorem afterReturn_pattern :
    afterReturn.pattern = ⟨false, afterReturnRow.foldl .seq .start⟩ := by
  decide +kernel

theorem isPlain_afterReturnRow : ∀ e ∈ afterReturnRow, e.isPlain = true := by
  decide +kernel

theorem reads_afterReturnRow {part : List Char} :
    (afterReturnRow.foldl Expr.seq .empty).Reads false part ↔
      ReturnAndMore part := by
  have hlast (c : Char) :
    ([SetItem.notBlank].any (SetItem.holds false c) != false) = true ↔
      Text.isBlank c = false := by
    simp [SetItem.holds]
  simp only [afterReturnRow, List.foldl_append, List.foldl_cons, List.foldl_nil,
    Expr.Reads, reads_foldl_letters, reads_blanks, reads_gap, reads_letter,
    agrees_false, hlast]
  constructor
  · rintro ⟨_, _, rfl,
      ⟨_, more, rfl,
        ⟨_, _, rfl,
          ⟨_, value, rfl,
            ⟨_, apart, rfl, ⟨_, rfl, _, indent, rfl, rfl, -, hindent⟩, hlength,
              hblank⟩, hvalue⟩, _, rfl, rfl⟩, hmore⟩,
      c, rfl, hc⟩
    exact .intro hindent (List.length_pos_iff.1 hlength) hblank hvalue hmore hc
  · rintro ⟨hindent, hapart, hblank, hvalue, hmore, hc⟩
    exact ⟨_, _, rfl, ⟨_, _, rfl, ⟨_, _, rfl, ⟨_, _, rfl, ⟨_, _, rfl,
      ⟨_, rfl, [], _, rfl, rfl, Nat.zero_le _, hindent⟩,
      List.length_pos_iff.2 hapart, hblank⟩, hvalue⟩, _, rfl, rfl⟩, hmore⟩,
      _, rfl, hc⟩

/-- The pattern occurs in the texts that begin with a return statement and go on
after it. -/
theorem afterReturn_occursIn_iff (text : String) :
    afterReturn.pattern.occursIn text = true ↔
      ∃ part, ReturnAndMore part ∧ part <+: text.toList := by
  rw [afterReturn_pattern, anchored_occursIn_iff isPlain_afterReturnRow]
  simp only [reads_afterReturnRow]

-- =============================================================== lines

/-- A line as it is read from a file has a line feed at its end alone, if at
all. -/
theorem lineFeed_not_mem_dropLast {text line : String}
    (h : line ∈ Text.readLines text) : '\n' ∉ line.toList.dropLast := by
  obtain ⟨piece, hpiece, rfl⟩ := List.mem_map.1 h
  rw [Text.readLinesFrom_eq_pieces] at hpiece
  obtain ⟨k, hk⟩ := List.mem_iff_getElem?.1 hpiece
  obtain ⟨before, body, hstands, -, hbody⟩ := Text.stands_pieces (by simp) hk
  have hunbroken : '\n' ∉ body :=
    fun hmem => by simpa using hstands.unbroken _ hmem
  rw [String.toList_ofList]
  rcases hbody with rfl | ⟨c, -, rfl⟩
  · exact fun hmem => hunbroken (List.dropLast_subset _ hmem)
  · rwa [List.dropLast_concat]

/-- What goes on after a return statement has a line feed before its end,
whatever follows. -/
theorem ReturnAndMore.lineFeed_mem {part : List Char} (h : ReturnAndMore part)
    (rest : List Char) : '\n' ∈ (part ++ rest).dropLast := by
  obtain @⟨indent, apart, value, more, c⟩ := h
  have hbehind : more ++ [c] ++ rest ≠ [] := by simp
  rw [List.append_assoc _ more, List.append_assoc,
    List.dropLast_append_of_ne_nil hbehind]
  simp

theorem afterReturn_not_occursIn {text line : String}
    (h : line ∈ Text.readLines text) :
    afterReturn.pattern.occursIn line = false := by
  rw [← Bool.not_eq_true, afterReturn_occursIn_iff]
  rintro ⟨part, hpart, rest, hline⟩
  exact lineFeed_not_mem_dropLast h (hline ▸ hpart.lineFeed_mem rest)

-- ============================================================= remarks

/-- A sign that does not tell of return statements leads to no remark. -/
theorem remark?_of_other {check : DeadCodeCheck}
    (hcheck : check ∈ deadCodeChecks) (hother : check ≠ afterReturn)
    (number : Nat) (line : String) (next : Option String) :
    check.remark? number line next = none := by
  have hwords : ∀ check ∈ deadCodeChecks.tail,
      Text.contains "return" check.written = false := by
    decide
  have hword := hwords check ((List.mem_cons.1 hcheck).resolve_left hother)
  rw [DeadCodeCheck.remark?, hword, Bool.and_false, if_neg Bool.false_ne_true]

theorem remark?_of_unreturned {line : String}
    (h : afterReturn.pattern.occursIn line = false) (number : Nat)
    (next : Option String) : afterReturn.remark? number line next = none := by
  rw [DeadCodeCheck.remark?, h, Bool.false_and, if_neg Bool.false_ne_true]

/-- Lines that do not go on after a return statement have no remarks. -/
theorem deadCodeFrom_eq_nil {lines : List String}
    (h : ∀ line ∈ lines, afterReturn.pattern.occursIn line = false)
    (number : Nat) : deadCodeFrom number lines = [] := by
  induction lines generalizing number with
  | nil => rfl
  | cons line rest ih =>
      obtain ⟨hline, hrest⟩ := List.forall_mem_cons.1 h
      rw [deadCodeFrom, ih hrest, List.append_nil, List.filterMap_eq_nil_iff]
      intro check hcheck
      by_cases hreturn : check = afterReturn
      · rw [hreturn]
        exact remark?_of_unreturned hline number rest.head?
      · exact remark?_of_other hcheck hreturn number line rest.head?

/-- Code that cannot be reached is never reported, whatever the file. No line
that is read from it has the sign of code after a return statement, although
there are texts that do; and the other signs lead to no remark on any line. -/
theorem dead_code_never_reported :
    (∀ (columns : Bool) (path : String) (source : Option Source),
      deadCode.check columns path source = []) ∧
    (∀ text, ∀ line ∈ Text.readLines text, afterReturn.pattern.occursIn line
      = false) ∧
    (∀ text, afterReturn.pattern.occursIn text = true ↔
      ∃ part, ReturnAndMore part ∧ part <+: text.toList) ∧
    ∀ check ∈ deadCodeChecks, check ≠ afterReturn → ∀ number line next,
      check.remark? number line next = none := by
  refine ⟨fun columns path source => ?_, fun _ _ => afterReturn_not_occursIn,
    afterReturn_occursIn_iff, fun _ => remark?_of_other⟩
  cases source with
  | none => rfl
  | some source =>
      have hremarks : deadCode.inspection.remarks source = [] :=
        deadCodeFrom_eq_nil (fun _ => afterReturn_not_occursIn) 1
      rw [check, attempt, hremarks]
      rfl

-- two lines at once do have the sign, and the line after them would be reported
example :
    ((afterReturn.remark? 1 "return 1\nx\n" (some "y\n")).map Remark.snippet)
      = some "y" := by
  decide +kernel

end Rule

end SourceAudit
