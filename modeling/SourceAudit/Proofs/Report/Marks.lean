/-
Texts whose marks have no flaw.

A text without an opening bracket has no marks (`flawIn?_of_notMem`). One that
opens a style and closes it by its name, with plain words between, leaves open
just what was open before (`refusal?_styled`), whatever a terminal makes of the
words in marks.
-/
import SourceAudit.Report.Marks
import Mathlib.Data.List.TakeWhile

namespace SourceAudit.Report

-- ============================================================== pieces

/-- Characters that neither start a mark nor keep the next from being one. -/
def IsUnmarked (cs : List Char) : Prop :=
  ∀ c ∈ cs, c ≠ '[' ∧ c ≠ '\\'

instance (cs : List Char) : Decidable (IsUnmarked cs) :=
  List.decidableBAll _ cs

theorem isUnmarked_append {cs ds : List Char} :
    IsUnmarked (cs ++ ds) ↔ IsUnmarked cs ∧ IsUnmarked ds :=
  List.forall_mem_append

/-- What can stand in a mark from its first character on. -/
structure IsInside (inside : List Char) : Prop where
  starts : inside.head?.any startsMark = true
  unbroken : (inside.all fun c => c != '[' && c != ']') = true

theorem insideMark?_append {inside : List Char} (h : IsInside inside)
    (rest : List Char) :
    insideMark? (inside ++ ']' :: rest) = some inside := by
  obtain ⟨hstarts, hunbroken⟩ := h
  cases inside with
  | nil => cases hstarts
  | cons c cs =>
      have htake : (cs ++ ']' :: rest).takeWhile (fun c => c != '[' && c != ']')
          = cs := by
        rw [List.takeWhile_append_of_pos
          fun d hd => List.all_eq_true.1 hunbroken d
            (List.mem_cons_of_mem c hd)]
        exact List.append_nil cs
      have hc : startsMark c = true := hstarts
      simp [insideMark?, htake, hc]

/-- Characters that belong to a mark are passed over. -/
theorem piecesFrom_skip (position : Nat) (cs rest : List Char) :
    piecesFrom position 0 cs.length (cs ++ rest)
      = piecesFrom (position + cs.length) 0 0 rest := by
  induction cs generalizing position with
  | nil => rfl
  | cons c cs ih =>
      rw [List.cons_append, List.length_cons, piecesFrom, ih]
      congr 1
      omega

theorem piecesFrom_mark (position : Nat) {inside : List Char}
    (h : IsInside inside) (rest : List Char) :
    piecesFrom position 0 0 ('[' :: (inside ++ ']' :: rest))
      = .plain [] :: .mark position inside ::
          piecesFrom (position + inside.length + 2) 0 0 rest := by
  have hskip : piecesFrom (position + 1) 0 (inside.length + 1)
      (inside ++ ']' :: rest)
        = piecesFrom (position + inside.length + 2) 0 0 rest := by
    have hbracket := piecesFrom_skip (position + 1) (inside ++ [']']) rest
    rw [List.append_assoc, List.length_append] at hbracket
    rw [show position + inside.length + 2
      = position + 1 + (inside.length + 1) by omega]
    exact hbracket
  rw [piecesFrom]
  simp only [insideMark?_append h, hskip]
  rfl

-- =============================================================== flaws

namespace Marking

variable (m : Marking)

/-- Without an opening bracket there is no mark. -/
theorem flawIn?_of_notMem {cs : List Char} (h : '[' ∉ cs) (opened : List Opened)
    (position slashes : Nat) :
    m.flawIn? opened (piecesFrom position slashes 0 cs) = none := by
  induction cs generalizing position slashes with
  | nil => rfl
  | cons c cs ih =>
      have hc : (c != '[') = true := by
        rw [bne_iff_ne]
        rintro rfl
        exact h (List.mem_cons_self ..)
      have hcs : '[' ∉ cs := fun hmem => h (List.mem_cons_of_mem c hmem)
      rw [piecesFrom]
      by_cases hslash : (c == '\\') = true
      · rw [if_pos hslash]
        exact ih hcs _ _
      · rw [if_neg hslash, if_pos hc, flawIn?]
        exact ih hcs _ _

/-- Plain characters leave open what is open. -/
theorem flawIn?_plain {cs : List Char} (h : IsUnmarked cs)
    (opened : List Opened) (position : Nat) (rest : List Char) :
    m.flawIn? opened (piecesFrom position 0 0 (cs ++ rest))
      = m.flawIn? opened (piecesFrom (position + cs.length) 0 0 rest) := by
  induction cs generalizing position with
  | nil => rfl
  | cons c cs ih =>
      obtain ⟨⟨hbracket, hslash⟩, hcs⟩ := List.forall_mem_cons.1 h
      rw [List.cons_append, piecesFrom, if_neg (by simpa using hslash),
        if_pos (by simpa using hbracket), flawIn?, ih hcs, List.length_cons]
      congr 2
      omega

/-- The name of a style that can be opened and closed as it stands. -/
structure IsStyle (name : String) : Prop where
  inside : IsInside name.toList
  opens : name.toList.head? ≠ some '/'
  wordless : name.toList.all (· != '=') = true
  trimmed : Text.trim name = name

variable {m} {name : String}

theorem IsStyle.closing (h : IsStyle name) : IsInside ('/' :: name.toList) where
  starts := rfl
  unbroken := h.inside.unbroken

theorem flawIn?_open (h : IsStyle name) (opened : List Opened) (position : Nat)
    (rest : List Piece) :
    m.flawIn? opened (.mark position name.toList :: rest)
      = m.flawIn? (⟨m.styleName name, ""⟩ :: opened) rest := by
  have hname := List.takeWhile_eq_self_iff.2 (List.all_eq_true.1 h.wordless)
  rw [flawIn?]
  simp only [hname]
  rw [if_neg (by simpa using h.opens), String.ofList_toList,
    List.drop_eq_nil_of_le (Nat.le_succ _)]

theorem flawIn?_close (h : IsStyle name) (opened : List Opened) (position : Nat)
    (rest : List Piece) :
    m.flawIn? (⟨m.styleName name, ""⟩ :: opened)
        (.mark position ('/' :: name.toList) :: rest)
      = m.flawIn? opened rest := by
  have hname : ('/' :: name.toList).takeWhile (fun c => c != '=')
      = '/' :: name.toList :=
    List.takeWhile_eq_self_iff.2
      (List.forall_mem_cons.2 ⟨rfl, List.all_eq_true.1 h.wordless⟩)
  have hclose : m.close? name (⟨m.styleName name, ""⟩ :: opened)
      = some (⟨m.styleName name, ""⟩, opened) := by
    simp [close?]
  have hlink : m.linkFlaw? ⟨m.styleName name, ""⟩ = none := by
    simp [linkFlaw?]
  rw [flawIn?]
  simp only [hname, List.head?_cons, beq_self_eq_true, if_true,
    List.drop_succ_cons, List.drop_zero, String.ofList_toList, h.trimmed,
    hclose, hlink]

theorem refusal?_line {text : String} (h : m.flaw? text = none) :
    m.refusal? (.line text) = none := by
  simp [refusal?, Display.texts, h]

theorem refusal?_of_notMem {text : String} (h : '[' ∉ text.toList) :
    m.refusal? (.line text) = none :=
  m.refusal?_line (m.flawIn?_of_notMem h [] 0 0)

/-- Words in a style are shown, with plain ones before them and anything that
has no mark after them. -/
theorem refusal?_styled (h : IsStyle name) (before words after : String)
    (hbefore : IsUnmarked before.toList) (hwords : IsUnmarked words.toList)
    (hafter : '[' ∉ after.toList) {text : String}
    (htext : text.toList
      = before.toList ++ '[' :: (name.toList ++ ']' :: (words.toList ++
          '[' :: ('/' :: name.toList ++ ']' :: after.toList)))) :
    m.refusal? (.line text) = none := by
  refine m.refusal?_line ?_
  rw [flaw?, pieces, htext, flawIn?_plain m hbefore, piecesFrom_mark _ h.inside,
    flawIn?, flawIn?_open h, flawIn?_plain m hwords,
    piecesFrom_mark _ h.closing, flawIn?, flawIn?_close h,
    flawIn?_of_notMem m hafter]

end Marking
end SourceAudit.Report
