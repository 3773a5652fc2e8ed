/-
Where the lines of a text stand in it.

Both ways of breaking a text into lines cut it at certain characters; they
differ in which, and in whether the character stays (`pieces`). So the line with
`k` others before it stands in the text after exactly `k` of those characters
(`stands_pieces`), and what is left of it once it is trimmed does too
(`Stands.of_infix`). Counted by line feeds alone, the same place is on the line
that splitting at line feeds gives (`exists_line_of_stands`).
-/
import SourceAudit.Proofs.Path.Normal
import SourceAudit.Proofs.Text.Lines
import SourceAudit.Text.Search
import Mathlib.Data.List.TakeWhile

namespace SourceAudit.Text

-- ============================================================== places

/-- A part of a text without breaks that stands right after `before`. -/
structure Stands (isBreak : Char → Bool) (before part text : List Char) :
    Prop where
  standing : before ++ part <+: text
  unbroken : ∀ c ∈ part, isBreak c = false

variable {isBreak : Char → Bool} {before part text : List Char}

/-- A part of a part stands after just as many breaks. -/
theorem Stands.of_infix (h : Stands isBreak before part text)
    {inner : List Char} (hinner : inner <:+: part) :
    ∃ start, Stands isBreak start inner text ∧
      start.countP isBreak = before.countP isBreak := by
  obtain ⟨lead, trail, rfl⟩ := hinner
  refine ⟨before ++ lead, ⟨?_, fun c hc => h.unbroken c (by simp [hc])⟩, ?_⟩
  · refine List.IsPrefix.trans ?_ h.standing
    simp
  · have hlead : lead.countP isBreak = 0 :=
      List.countP_eq_zero.2 fun c hc => by simp [h.unbroken c (by simp [hc])]
    rw [List.countP_append, hlead, Nat.add_zero]

/-- Fewer characters may count as breaks. -/
theorem Stands.mono (h : Stands isBreak before part text) {fewer : Char → Bool}
    (hfewer : ∀ c, fewer c = true → isBreak c = true) :
    Stands fewer before part text := by
  refine ⟨h.standing, fun c hc => Bool.eq_false_iff.2 fun hbreak => ?_⟩
  exact Bool.false_ne_true ((h.unbroken c hc).symm.trans (hfewer c hbreak))

-- ============================================================== pieces

/-- The pieces of a text that is cut after certain characters. `ending` is what
stays of such a character, `line` the piece under way, last character first. -/
def pieces (isBreak : Char → Bool) (ending : Char → List Char)
    (line : List Char) :
    List Char → List (List Char)
  | [] => if line.isEmpty then [] else [line.reverse]
  | c :: rest =>
    if isBreak c then (line.reverse ++ ending c) ::
      pieces isBreak ending [] rest
    else pieces isBreak ending (c :: line) rest

/-- Reading a file cuts it at line feeds and keeps them. -/
theorem readLinesFrom_eq_pieces (line cs : List Char) :
    readLinesFrom line cs = pieces (· == '\n') (fun c => [c]) line cs := by
  induction cs generalizing line with
  | nil => rfl
  | cons c rest ih => rw [readLinesFrom, pieces, ih, ih, List.reverse_cons]

/-- Splitting a text without carriage returns cuts it at all breaks and drops
them. -/
theorem splitLinesFrom_eq_pieces (line : List Char) {cs : List Char}
    (h : '\r' ∉ cs) :
    splitLinesFrom line cs = pieces isLineBreak (fun _ => []) line cs := by
  induction cs generalizing line with
  | nil => rfl
  | cons c rest ih =>
      obtain ⟨hc, hrest⟩ : ¬ '\r' = c ∧ '\r' ∉ rest := by simpa using h
      rw [splitLinesFrom_cons (fun hreturn => absurd hreturn.symm hc), pieces,
        ih _ hrest, ih _ hrest, List.append_nil]

/-- The piece with `k` others before it stands after `k` breaks; what may follow
it in the piece is what stays of a break. -/
theorem stands_pieces {ending : Char → List Char}
    {line cs piece : List Char} {k : Nat}
    (hline : ∀ c ∈ line, isBreak c = false)
    (h : (pieces isBreak ending line cs)[k]? = some piece) :
    ∃ before body, Stands isBreak before body (line.reverse ++ cs) ∧
      before.countP isBreak = k ∧
      (piece = body ∨ ∃ c, isBreak c = true ∧ piece = body ++ ending c) := by
  have hunder : ∀ c ∈ line.reverse, isBreak c = false := fun c hc =>
    hline c (List.mem_reverse.1 hc)
  induction cs generalizing line k with
  | nil =>
      rw [pieces] at h
      split at h
      · cases h
      · obtain ⟨rfl, rfl⟩ : k = 0 ∧ line.reverse = piece := by
          cases k with
          | zero => exact ⟨rfl, Option.some.inj h⟩
          | succ k => cases h
        exact ⟨[], line.reverse, ⟨List.prefix_append _ _, hunder⟩,
          rfl, .inl rfl⟩
  | cons c rest ih =>
      rw [pieces] at h
      split at h
      · rename_i hc
        cases k with
        | zero =>
            obtain rfl := Option.some.inj h
            exact ⟨[], line.reverse, ⟨List.prefix_append _ _, hunder⟩, rfl,
              .inr ⟨c, hc, rfl⟩⟩
        | succ k =>
            have hempty : ∀ x ∈ ([] : List Char), isBreak x = false := by simp
            obtain ⟨before, body, hstands, hcount, hpiece⟩ := ih hempty h hempty
            refine ⟨line.reverse ++ c :: before, body, ⟨?_, hstands.unbroken⟩,
              ?_, hpiece⟩
            · rw [List.append_assoc, List.prefix_append_right_inj,
                List.cons_append]
              exact List.cons_prefix_cons.2 ⟨rfl, hstands.standing⟩
            · have hnone : line.reverse.countP isBreak = 0 :=
                List.countP_eq_zero.2 fun x hx => by simp [hunder x hx]
              rw [List.countP_append, hnone, List.countP_cons_of_pos hc, hcount,
                Nat.zero_add]
      · rename_i hc
        have hc : isBreak c = false := by simpa using hc
        have hnext : ∀ x ∈ c :: line, isBreak x = false := by
          simpa [hc] using hline
        obtain ⟨before, body, hstands, hrest⟩ :=
          ih hnext h fun x hx => hnext x (List.mem_reverse.1 hx)
        rw [List.reverse_cons, List.append_assoc,
          List.singleton_append] at hstands
        exact ⟨before, body, hstands, hrest⟩

-- ============================================================ trimming

/-- Blanks at the end do not show in a trimmed text. -/
theorem trimmed_append_blanks (cs : List Char) {tail : List Char}
    (h : ∀ c ∈ tail, isBlank c = true) :
    trimEnd (trimStart (cs ++ tail)) = trimEnd (trimStart cs) := by
  unfold trimEnd trimStart
  rw [List.dropWhile_append]
  split
  · rename_i hblank
    rw [List.isEmpty_iff.1 hblank, List.dropWhile_eq_nil_iff.2 h]
  · rw [List.reverse_append, List.dropWhile_append_of_pos]
    exact fun c hc => h c (List.mem_reverse.1 hc)

/-- A trimmed text is a part of the text. -/
theorem trimmed_infix (cs : List Char) : trimEnd (trimStart cs) <:+: cs := by
  have hstart : trimStart cs <:+ cs := List.dropWhile_suffix isBlank
  have hend : trimEnd (trimStart cs) <+: trimStart cs := by
    have hsuffix := List.dropWhile_suffix (l := (trimStart cs).reverse) isBlank
    rw [← List.reverse_prefix, List.reverse_reverse] at hsuffix
    exact hsuffix
  exact hend.isInfix.trans hstart.isInfix

-- =============================================================== lines

theorem occursIn_iff (needle cs : List Char) : occursIn needle cs = true ↔
    needle <:+: cs := by
  induction cs with
  | nil => rw [occursIn, List.isEmpty_iff, List.infix_nil]
  | cons c rest ih =>
      rw [occursIn, Bool.or_eq_true, List.isPrefixOf_iff_prefix, ih,
        List.infix_cons_iff]

/-- The piece under way begins the first piece. -/
theorem head_splitAtChar (sep : Char) (piece cs : List Char) :
    ∃ more, (splitAtChar sep piece cs)[0]? = some (piece.reverse ++ more) := by
  induction cs generalizing piece with
  | nil => exact ⟨[], by simp [splitAtChar]⟩
  | cons c rest ih =>
      rw [splitAtChar]
      split
      · exact ⟨[], by simp⟩
      · obtain ⟨more, hmore⟩ := ih (c :: piece)
        exact ⟨c :: more, by rw [hmore, List.reverse_cons,
          List.append_assoc]; rfl⟩

/-- What follows so many separators goes on in the piece with so many others
before it. -/
theorem splitAtChar_after (sep : Char) (before piece rest : List Char) :
    ∃ under, (splitAtChar sep piece (before ++ rest))[before.count sep]?
      = (splitAtChar sep under rest)[0]? := by
  induction before generalizing piece with
  | nil => exact ⟨piece, rfl⟩
  | cons c before ih =>
      rw [List.cons_append, splitAtChar]
      split
      · rename_i hc
        obtain rfl : c = sep := by simpa using hc
        rw [List.count_cons_self, List.getElem?_cons_succ]
        exact ih []
      · rename_i hc
        have hne : c ≠ sep := by simpa using hc
        rw [List.count_cons_of_ne hne]
        exact ih (c :: piece)

/-- A part that stands after so many separators is in the piece with so many
others before it. -/
theorem exists_line_of_stands {sep : Char} {before part : List Char}
    {text : String} (h : Stands (· == sep) before part text.toList) :
    ∃ line, (splitOnChar sep text)[before.count sep]? = some line ∧
      contains (String.ofList part) line = true := by
  obtain ⟨after, hafter⟩ := h.standing
  have hpart : sep ∉ part := fun hmem => by simpa using h.unbroken sep hmem
  obtain ⟨under, hunder⟩ := splitAtChar_after sep before [] (part ++ after)
  rw [splitAtChar_append hpart] at hunder
  obtain ⟨more, hmore⟩ := head_splitAtChar sep (part.reverse ++ under) after
  refine ⟨String.ofList (under.reverse ++ part ++ more), ?_, ?_⟩
  · rw [splitOnChar, List.getElem?_map, ← hafter, List.append_assoc,
      hunder, hmore, List.reverse_append, List.reverse_reverse]
    rfl
  · rw [contains, occursIn_iff, String.toList_ofList, String.toList_ofList]
    exact ⟨under.reverse, more, rfl⟩

end SourceAudit.Text
