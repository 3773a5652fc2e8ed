/-
Where a text may be cut without changing its lines: after a line feed.

Both ways of breaking a text into lines carry the line under way along, last
character first. A line feed ends that line in either of them, so what follows
it is broken as if nothing came before. What has no break in it is never cut
(`exists_line_of_infix`).
-/
import SourceAudit.Text.Blank

namespace SourceAudit.Text

/-- A text after which another one starts on a line of its own: it is empty or
ends with a line feed. -/
def EndsLine (s : String) : Prop :=
  s = "" ∨ s.toList.getLast? = some '\n'

/-- Such a text is empty or some text with a line feed after it. -/
theorem EndsLine.cases {s : String} (h : EndsLine s) :
    s.toList = [] ∨ ∃ body, s.toList = body ++ ['\n'] := by
  rcases h with rfl | h
  · exact Or.inl rfl
  · obtain ⟨body, hbody⟩ := List.getLast?_eq_some_iff.1 h
    exact Or.inr ⟨body, hbody⟩

-- ========================================================== file lines

/-- After a line feed the reader of a file starts anew. -/
theorem readLinesFrom_cut (line body rest : List Char) :
    readLinesFrom line (body ++ '\n' :: rest)
      = readLinesFrom line (body ++ ['\n']) ++ readLinesFrom [] rest := by
  induction body generalizing line with
  | nil => rfl
  | cons c body ih =>
      rw [List.cons_append, List.cons_append, readLinesFrom, readLinesFrom]
      cases hc : c == '\n' with
      | true => rw [if_pos rfl, if_pos rfl, ih, List.cons_append]
      | false => rw [if_neg Bool.false_ne_true, if_neg Bool.false_ne_true, ih]

/-- The lines of a file that ends a line are followed by those of what is
added. -/
theorem readLines_append {a : String} (h : EndsLine a) (b : String) :
    readLines (a ++ b) = readLines a ++ readLines b := by
  unfold readLines
  rw [String.toList_append, ← List.map_append]
  rcases h.cases with ha | ⟨body, ha⟩
  · rw [ha]
    rfl
  · rw [ha, List.append_assoc, List.singleton_append, readLinesFrom_cut]

-- ========================================================== text lines

/-- A character other than a carriage return with its line feed ends the line
under way or joins it. -/
theorem splitLinesFrom_cons {c : Char} {cs : List Char}
    (h : c = '\r' → cs.head? ≠ some '\n') (line : List Char) :
    splitLinesFrom line (c :: cs)
      = if isLineBreak c then line.reverse :: splitLinesFrom [] cs
        else splitLinesFrom (c :: line) cs := by
  refine splitLinesFrom.eq_3 line c cs fun rest hc hcs => h hc ?_
  rw [hcs]
  rfl

/-- After a line feed a text is split anew. A carriage return before the line
feed ends the same line with it. -/
theorem splitLinesFrom_cut (line body rest : List Char) :
    splitLinesFrom line (body ++ '\n' :: rest)
      = splitLinesFrom line (body ++ ['\n']) ++ splitLinesFrom [] rest := by
  induction hn : body.length using Nat.strongRecOn generalizing line body with
  | ind n ih =>
  cases body with
  | nil => rfl
  | cons c body =>
      by_cases hpair : c = '\r' ∧ (body ++ ['\n']).head? = some '\n'
      · -- a carriage return: its line feed is the cut or comes before it
        obtain ⟨rfl, hhead⟩ := hpair
        cases body with
        | nil => rfl
        | cons d body =>
            obtain rfl : d = '\n' := Option.some.inj hhead
            have hlt : body.length < n := by
              rw [← hn, List.length_cons, List.length_cons]
              omega
            show line.reverse :: splitLinesFrom [] (body ++ '\n' :: rest)
              = line.reverse :: splitLinesFrom [] (body ++ ['\n']) ++
                splitLinesFrom [] rest
            rw [ih _ hlt [] body rfl, List.cons_append]
      · have hhead : (body ++ '\n' :: rest).head? = (body ++ ['\n']).head? := by
          cases body with
          | nil => rfl
          | cons d body => rfl
        have hlt : body.length < n := by
          rw [← hn, List.length_cons]
          omega
        rw [List.cons_append, List.cons_append,
          splitLinesFrom_cons fun hc hcs => hpair ⟨hc, hhead ▸ hcs⟩,
          splitLinesFrom_cons fun hc hcs => hpair ⟨hc, hcs⟩]
        split
        · rw [ih _ hlt [] body rfl, List.cons_append]
        · rw [ih _ hlt (c :: line) body rfl]

/-- The lines of a text that ends a line are followed by those of what is
added. -/
theorem splitLines_append {a : String} (h : EndsLine a) (b : String) :
    splitLines (a ++ b) = splitLines a ++ splitLines b := by
  unfold splitLines
  rw [String.toList_append, ← List.map_append]
  rcases h.cases with ha | ⟨body, ha⟩
  · rw [ha]
    rfl
  · rw [ha, List.append_assoc, List.singleton_append, splitLinesFrom_cut]

-- =============================================================== parts

/-- A part of a text that does not have some character stands before it or after
it. -/
theorem infix_append_cons {part a b : List Char} {c : Char}
    (h : part <:+: a ++ c :: b) (hc : c ∉ part) :
    part <:+: a ∨ part <:+: b := by
  obtain ⟨lead, tail, h⟩ := h
  rw [List.append_assoc] at h
  rcases List.append_eq_append_iff.1 h with ⟨between, ha, hpart⟩ | ⟨between,
    hlead, hpart⟩
  · -- the part begins before the character and ends before it
    rcases List.append_eq_append_iff.1 hpart with ⟨more, rfl, -⟩ | ⟨more,
      rfl, hmore⟩
    · exact .inl ⟨lead, more, by rw [ha, List.append_assoc]⟩
    · cases more with
      | nil => exact .inl ⟨lead, [], by simp [ha]⟩
      | cons d more =>
          obtain ⟨rfl, -⟩ := List.cons.inj hmore
          simp at hc
  · cases between with
    | nil =>
        cases part with
        | nil => exact .inl List.nil_infix
        | cons d part =>
            obtain ⟨rfl, -⟩ := List.cons.inj hpart
            simp at hc
    | cons d between =>
        obtain ⟨-, rfl⟩ := List.cons.inj hpart
        exact .inr ⟨between, tail, List.append_assoc between part tail⟩

/-- A part of a text without breaks is a part of one of its lines. -/
theorem exists_line_of_infix {part : List Char} (hpart : part ≠ [])
    (hunbroken : ∀ c ∈ part, isLineBreak c = false) {line cs : List Char}
    (h : part <:+: line.reverse ++ cs) : ∃ l ∈ splitLinesFrom line cs,
      part <:+: l := by
  have hbreak {c : Char} (hc : isLineBreak c = true) : c ∉ part := fun hmem =>
    Bool.false_ne_true ((hunbroken c hmem).symm.trans hc)
  fun_induction splitLinesFrom line cs with
  | case1 line hline =>
      rw [List.isEmpty_iff.1 hline] at h
      exact absurd (List.infix_nil.1 h) hpart
  | case2 line _ =>
      rw [List.append_nil] at h
      exact ⟨line.reverse, List.mem_singleton.2 rfl, h⟩
  | case3 line rest ih =>
      rcases infix_append_cons h (hbreak rfl) with h | h
      · exact ⟨line.reverse, List.mem_cons_self, h⟩
      · rcases infix_append_cons (a := []) h (hbreak rfl) with h | h
        · exact absurd (List.infix_nil.1 h) hpart
        · obtain ⟨l, hl, hinfix⟩ := ih h
          exact ⟨l, List.mem_cons_of_mem _ hl, hinfix⟩
  | case4 line c rest _ hc ih =>
      rcases infix_append_cons h (hbreak hc) with h | h
      · exact ⟨line.reverse, List.mem_cons_self, h⟩
      · obtain ⟨l, hl, hinfix⟩ := ih h
        exact ⟨l, List.mem_cons_of_mem _ hl, hinfix⟩
  | case5 line c rest _ _ ih =>
      rw [List.reverse_cons, List.append_assoc, List.singleton_append] at ih
      exact ih h

end SourceAudit.Text
