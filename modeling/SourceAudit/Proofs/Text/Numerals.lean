/-
Whole numbers written out and read again.

The digits of a number are read one after another into the value they had when
they were written (`digitsFrom_digits`), and neither the digits nor the sign are
blanks, so nothing is lost by trimming. A text that begins with anything but a
blank, a sign or a digit is no number (`numeral?_eq_none`).
-/
import SourceAudit.Text.Numeral
import Mathlib.Data.List.TakeWhile

namespace SourceAudit.Text

-- ============================================================== blanks

/-- A text whose first character is no blank keeps it when it is trimmed. -/
theorem trimmed_cons {c : Char} (h : isBlank c = false) (rest : List Char) :
    ∃ kept, trimEnd (trimStart (c :: rest)) = c :: kept := by
  have hstart : trimStart (c :: rest) = c :: rest := by
    rw [trimStart, List.dropWhile_cons_of_neg (by simp [h])]
  rw [hstart, trimEnd, List.reverse_cons, List.dropWhile_append]
  split
  · exact ⟨[], by simp [h]⟩
  · exact ⟨(rest.reverse.dropWhile isBlank).reverse, by simp⟩

/-- A text without blanks is trimmed already. -/
theorem trimmed_of_noBlank {cs : List Char} (h : ∀ c ∈ cs, isBlank c = false) :
    trimEnd (trimStart cs) = cs := by
  have hkept : ∀ l : List Char, (∀ c ∈ l, isBlank c = false) →
      l.dropWhile isBlank = l := by
    intro l hl
    cases l with
    | nil => rfl
    | cons c rest =>
        rw [List.dropWhile_cons_of_neg (by simp [hl c List.mem_cons_self])]
  rw [trimStart, hkept cs h, trimEnd, hkept _ fun c hc =>
    h c (List.mem_reverse.1 hc), List.reverse_reverse]

-- ============================================================== digits

theorem toNat_of_isDigit {c : Char} (h : c.isDigit = true) :
    0x30 ≤ c.toNat ∧ c.toNat ≤ 0x39 := by
  simp only [Char.isDigit, ge_iff_le, Bool.and_eq_true, decide_eq_true_eq] at h
  exact ⟨UInt32.le_iff_toNat_le.1 h.1, UInt32.le_iff_toNat_le.1 h.2⟩

theorem digitValue?_of_isDigit {c : Char} (h : c.isDigit = true) :
    digitValue? c = some (c.toNat - 0x30) := by
  have hrange := toNat_of_isDigit h
  rw [digitValue?, if_pos (by omega), if_pos h]

theorem isBlank_of_isDigit {c : Char} (h : c.isDigit = true) :
    isBlank c = false := by
  have hrange := toNat_of_isDigit h
  simp [isBlank]
  omega

/-- Digits are read into the value they spell after what has been read. -/
theorem digitsFrom_digits {ds : List Char} (h : ∀ c ∈ ds, c.isDigit = true)
    (value : Nat) :
    digitsFrom value ds
      = some
        (ds.foldl (fun sofar c => 10 * sofar + (c.toNat - 0x30)) value) := by
  induction ds generalizing value with
  | nil => rfl
  | cons d rest ih =>
      have hd := h d List.mem_cons_self
      have hline : ¬d = '_' := by
        rintro rfl
        cases hd
      rw [digitsFrom.eq_3 value d rest fun _ _ hlow _ => hline hlow,
        digitValue?_of_isDigit hd, Option.bind_some, ih fun c hc =>
          h c (List.mem_cons_of_mem d hc), List.foldl_cons,
        Nat.mul_comm]

/-- The digits of a number spell it. -/
theorem unsignedNumeral?_toDigits (n : Nat) :
    unsignedNumeral? (Nat.toDigits 10 n) = some n := by
  have hdigit : ∀ c ∈ Nat.toDigits 10 n, c.isDigit = true := fun c hc =>
    Nat.isDigit_of_mem_toDigits (by decide) (by decide) hc
  have hvalue :=
    Nat.ofDigitChars_toDigits (b := 10) (n := n) (by decide) (by decide)
  rw [Nat.ofDigitChars_eq_foldl] at hvalue
  obtain ⟨d, ds, hdigits⟩ :=
    List.exists_cons_of_ne_nil (Nat.toDigits_ne_nil (b := 10) (n := n))
  rw [hdigits] at hdigit hvalue ⊢
  rw [unsignedNumeral?, digitValue?_of_isDigit (hdigit d List.mem_cons_self),
    Option.bind_some, digitsFrom_digits fun c hc =>
      hdigit c (List.mem_cons_of_mem d hc)]
  simpa using hvalue

-- ============================================================ numerals

/-- A number that is written out is read as itself. -/
theorem numeral?_toString (n : Int) : numeral? (toString n) = some n := by
  have hdigit (m : Nat) : ∀ c ∈ Nat.toDigits 10 m, c.isDigit = true :=
    fun c hc =>
    Nat.isDigit_of_mem_toDigits (by decide) (by decide) hc
  cases n with
  | ofNat m =>
      have htext : (toString (Int.ofNat m)).toList = Nat.toDigits 10 m :=
        String.toList_ofList
      have hread := unsignedNumeral?_toDigits m
      unfold numeral?
      rw [htext, trimmed_of_noBlank fun c hc =>
        isBlank_of_isDigit (hdigit m c hc)]
      split
      · rename_i hminus
        exact absurd (hdigit m '-' (hminus ▸ List.mem_cons_self)) (by decide)
      · rename_i hplus
        exact absurd (hdigit m '+' (hplus ▸ List.mem_cons_self)) (by decide)
      · rw [hread]
        rfl
  | negSucc m =>
      have htext : (toString (Int.negSucc m)).toList
          = '-' :: Nat.toDigits 10 (m + 1) := by
        rw [show toString (Int.negSucc m)
          = "-" ++ String.ofList (Nat.toDigits 10 (m + 1)) from rfl]
        simp
      have hblank : ∀ c ∈ '-' :: Nat.toDigits 10 (m + 1), isBlank c
          = false := by
        intro c hc
        rcases List.mem_cons.1 hc with rfl | hc
        · rfl
        · exact isBlank_of_isDigit (hdigit (m + 1) c hc)
      unfold numeral?
      rw [htext, trimmed_of_noBlank hblank]
      show ((unsignedNumeral? (Nat.toDigits 10 (m + 1))).map fun n =>
        -(n : Int)) = _
      rw [unsignedNumeral?_toDigits]
      rfl

/-- A text that begins with a letter or the like is no number. -/
theorem numeral?_eq_none {s : String} {c : Char} {rest : List Char}
    (hs : s.toList = c :: rest) (hblank : isBlank c = false)
    (hdigit : digitValue? c = none) (hminus : c ≠ '-') (hplus : c ≠ '+') :
    numeral? s = none := by
  obtain ⟨kept, hkept⟩ := trimmed_cons hblank rest
  unfold numeral?
  rw [hs, hkept]
  split
  · rename_i heq
    exact absurd (List.cons.inj heq).1 hminus
  · rename_i heq
    exact absurd (List.cons.inj heq).1 hplus
  · rw [unsignedNumeral?, hdigit]
    rfl

end SourceAudit.Text
