/-
Words and numbers of JSON text are read back.

A word or a number ends where a comma, a bracket or a blank comes, and what
comes after that does not matter (`readPlain_append`): what can be read on its
own can be read in the midst of a text. Whole numbers of any size are read back
(`readPlain_int`). Real numbers are read back if their texts are
(`readPlain_real`); what counts there is that the text of a number holds no
blank.
-/
import Mathlib.Data.List.TakeWhile
import SourceAudit.Value.Json.Reader
import SourceAudit.Value.Json.Writer

namespace SourceAudit

namespace Value.Json

-- ============================================================= numbers

/-- A character before which a word or a number ends. -/
def closes (c : Char) : Bool :=
  c == ',' || c == ']' || c == '\x7d' || isSpace c

/-- A rest before which a word or a number ends. -/
def Ended (rest : List Char) : Prop := ∀ c ∈ rest.head?, closes c = true

theorem Ended.cases {rest : List Char} (h : Ended rest) :
    rest = [] ∨ ∃ c more, rest = c :: more ∧ closes c = true := by
  cases rest with
  | nil => exact .inl rfl
  | cons c more => exact .inr ⟨c, more, rfl, h c rfl⟩

/-- No part of a number closes it. -/
theorem ne_of_closes {c : Char} (h : closes c = true) :
    c.isDigit = false ∧ c ≠ '.' ∧ c ≠ 'e' ∧ c ≠ 'E' ∧ c ≠ '-' ∧ c ≠ '+' := by
  simp only [closes, isSpace, Bool.or_eq_true, beq_iff_eq] at h
  rcases h with ((rfl | rfl) | rfl) | (((rfl | rfl) | rfl) | rfl) <;> decide

section Ending

variable {rest : List Char}

theorem spanDigits_append (h : Ended rest) (cs : List Char) :
    spanDigits (cs ++ rest)
      = ((spanDigits cs).1, (spanDigits cs).2 ++ rest) := by
  induction cs with
  | nil =>
      rcases h.cases with rfl | ⟨c, more, rfl, hc⟩
      · rfl
      · simp [spanDigits, (ne_of_closes hc).1]
  | cons c cs ih =>
      by_cases hc : c.isDigit = true
      · simpa [spanDigits, hc] using ih
      · simp [spanDigits, hc]

theorem wholePart_append (h : Ended rest) (cs : List Char) :
    wholePart (cs ++ rest) = ((wholePart cs).1, (wholePart cs).2 ++ rest) := by
  cases cs with
  | nil =>
      rcases h.cases with rfl | ⟨c, more, rfl, hc⟩
      · rfl
      · have hzero : c ≠ '0' := by
          rintro rfl
          exact absurd (ne_of_closes hc).1 (by decide)
        simpa [wholePart, hzero] using spanDigits_append h []
  | cons c cs =>
      by_cases hzero : c = '0'
      · simp [wholePart, hzero]
      · simpa [wholePart, hzero] using spanDigits_append h (c :: cs)

theorem fraction_append (h : Ended rest) (cs : List Char) :
    fraction (cs ++ rest) = ((fraction cs).1, (fraction cs).2 ++ rest) := by
  match cs with
  | [] =>
      rcases h.cases with rfl | ⟨c, more, rfl, hc⟩
      · rfl
      · simp [fraction, (ne_of_closes hc).2.1]
  | [c] =>
      rcases h.cases with rfl | ⟨d, more, rfl, hd⟩
      · simp [fraction]
      · by_cases hpoint : c = '.'
        · simp [fraction, hpoint, (ne_of_closes hd).1]
        · simp [fraction, hpoint]
  | c :: d :: cs =>
      by_cases hpoint : c = '.'
      · by_cases hdigit : d.isDigit = true
        · simpa [fraction, hpoint, hdigit] using spanDigits_append h (d :: cs)
        · simp [fraction, hpoint, hdigit]
      · simp [fraction, hpoint]

theorem exponentSign_append (h : Ended rest) (cs : List Char) :
    exponentSign (cs ++ rest)
      = ((exponentSign cs).1, (exponentSign cs).2.1, (exponentSign cs).2.2 ++
        rest) := by
  cases cs with
  | nil =>
      rcases h.cases with rfl | ⟨c, more, rfl, hc⟩
      · rfl
      · obtain ⟨-, -, -, -, hminus, hplus⟩ := ne_of_closes hc
        simp [exponentSign, hminus, hplus]
  | cons c cs =>
      by_cases hminus : c = '-'
      · simp [exponentSign, hminus]
      by_cases hplus : c = '+'
      · simp [exponentSign, hplus]
      · simp [exponentSign, hminus, hplus]

theorem exponent_append (h : Ended rest) (cs : List Char) :
    exponent (cs ++ rest) = exponent cs := by
  cases cs with
  | nil =>
      rcases h.cases with rfl | ⟨c, more, rfl, hc⟩
      · rfl
      · obtain ⟨-, -, he, hE, -⟩ := ne_of_closes hc
        simp [exponent, he, hE]
  | cons e cs =>
      simp only [List.cons_append, exponent, exponentSign_append h,
        spanDigits_append h]

/-- What follows a number does not change it. -/
theorem readUnsigned_append (h : Ended rest) (negative : Bool)
    (cs : List Char) :
    readUnsigned negative (cs ++ rest) = readUnsigned negative cs := by
  unfold readUnsigned
  rw [wholePart_append h]
  rcases wholePart cs with ⟨_ | ⟨d, ds⟩, after⟩
  · rfl
  · simp only [fraction_append h, exponent_append h]

end Ending

-- ========================================================== their size

theorem length_spanDigits (cs : List Char) :
    (spanDigits cs).1.length + (spanDigits cs).2.length = cs.length := by
  rw [← List.length_append, spanDigits, List.takeWhile_append_dropWhile]

theorem length_wholePart (cs : List Char) :
    (wholePart cs).1.length + (wholePart cs).2.length = cs.length := by
  unfold wholePart
  split
  · simp [Nat.add_comm]
  · exact length_spanDigits cs

theorem length_fraction (cs : List Char) :
    (if (fraction cs).1.isEmpty then 0 else (fraction cs).1.length + 1) +
      (fraction cs).2.length
      = cs.length := by
  unfold fraction
  split
  · rename_i d more
    split
    · rename_i hd
      have hlength := length_spanDigits (d :: more)
      have hone : (spanDigits (d :: more)).1.isEmpty = false := by
        simp [spanDigits, hd]
      rw [hone]
      simp only [Bool.false_eq_true, if_false, List.length_cons] at hlength ⊢
      omega
    · simp
  · simp

theorem length_exponentSign (cs : List Char) :
    (exponentSign cs).2.1 + (exponentSign cs).2.2.length = cs.length := by
  unfold exponentSign
  split
  · simp [Nat.add_comm]
  · simp [Nat.add_comm]
  · simp

theorem exponent_le (cs : List Char) : (exponent cs).2 ≤ cs.length := by
  unfold exponent
  split
  · rename_i e rest
    have hsign := length_exponentSign rest
    rcases hparts : exponentSign rest with ⟨negative, sign, digits⟩
    rw [hparts] at hsign
    have hdigits := length_spanDigits digits
    split
    · simp only at hsign ⊢
      split
      · exact Nat.zero_le _
      · simp only [List.length_cons]
        omega
    · exact Nat.zero_le _
  · exact Nat.zero_le _

/-- A number takes no more characters than there are. -/
theorem size_le_of_readUnsigned {negative : Bool} {cs : List Char} {v : Value}
    {size : Nat} (h : readUnsigned negative cs = some (v, size)) :
    size ≤ cs.length := by
  have hwhole := length_wholePart cs
  unfold readUnsigned at h
  rcases hpart : wholePart cs with ⟨_ | ⟨d, ds⟩, after⟩
  · simp [hpart] at h
  · have hfraction := length_fraction after
    have hexponent := exponent_le (fraction after).2
    have hsize : (d :: ds).length
        + (if (fraction after).1.isEmpty then 0
          else (fraction after).1.length + 1)
        + (exponent (fraction after).2).2 = size := by
      simp only [hpart] at h
      split at h
      · exact (Prod.mk.inj (Option.some.inj h)).2
      · exact (Prod.mk.inj (Option.some.inj h)).2
    rw [hpart] at hwhole
    simp only at hwhole
    omega

-- =============================================================== words

/-- Where a word cannot run on, it is at the front of a text if it is at the
front of what comes before. -/
theorem isPrefixOf_append {rest : List Char} (h : Ended rest) {word : List Char}
    (hword : ∀ c ∈ word, closes c = false) (cs : List Char) :
    word.isPrefixOf (cs ++ rest) = word.isPrefixOf cs := by
  induction word generalizing cs with
  | nil => simp
  | cons a word ih =>
      have ih := ih fun c hc => hword c (List.mem_cons_of_mem a hc)
      cases cs with
      | cons b cs =>
          rw [List.cons_append, List.isPrefixOf_cons_cons,
            List.isPrefixOf_cons_cons, ih]
      | nil =>
          rcases h.cases with rfl | ⟨c, more, rfl, hc⟩
          · rfl
          · have hne : a ≠ c := by
              rintro rfl
              rw [hword a List.mem_cons_self] at hc
              cases hc
            simp [List.isPrefixOf_cons_cons, hne]

theorem closes_of_mem_words : ∀ w ∈ words.map Prod.fst, ∀ c ∈ w.toList, closes c
    = false := by
  have hall : ((words.map Prod.fst).all fun w => w.toList.all fun c =>
      !closes c) = true := by
    decide
  intro w hw c hc
  simpa using List.all_eq_true.1 (List.all_eq_true.1 hall w hw) c hc

theorem find?_words_append {rest : List Char} (h : Ended rest)
    (cs : List Char) :
    (words.find? fun w => w.1.toList.isPrefixOf (cs ++ rest))
      = words.find? fun w => w.1.toList.isPrefixOf cs := by
  have hwords := closes_of_mem_words
  generalize words = ws at hwords
  induction ws with
  | nil => rfl
  | cons w ws ih =>
      have hfirst := isPrefixOf_append h (hwords w.1 List.mem_cons_self) cs
      have hothers := ih fun v hv => hwords v (List.mem_cons_of_mem w.1 hv)
      rw [List.find?_cons, List.find?_cons, hfirst, hothers]

theorem readNumber_append {rest : List Char} (h : Ended rest) (cs : List Char) :
    readNumber (cs ++ rest) = readNumber cs := by
  cases cs with
  | nil =>
      rcases h.cases with rfl | ⟨c, more, rfl, hc⟩
      · rfl
      · obtain ⟨-, -, -, -, hminus, -⟩ := ne_of_closes hc
        simpa [readNumber, hminus] using readUnsigned_append h false []
  | cons c cs =>
      by_cases hminus : c = '-'
      · simp [readNumber, hminus, readUnsigned_append h]
      · simpa [readNumber, hminus] using readUnsigned_append h false (c :: cs)

theorem size_le_of_readNumber {cs : List Char} {v : Value} {size : Nat}
    (h : readNumber cs = some (v, size)) : size ≤ cs.length := by
  unfold readNumber at h
  split at h
  · rename_i rest
    obtain ⟨⟨value, n⟩, hread, heq⟩ := Option.map_eq_some_iff.1 h
    obtain ⟨rfl, rfl⟩ := Prod.mk.inj heq
    have hsize := size_le_of_readUnsigned hread
    simp only [List.length_cons]
    omega
  · exact size_le_of_readUnsigned h

/-- A word or a number that can be read on its own can be read before a rest at
which it ends. -/
theorem readPlain_append {cs rest : List Char} {v : Value} {after : Rest}
    {position : Nat} (h : readPlain ⟨cs, position⟩ = .ok (v, after))
    (hall : after.chars = []) (hrest : Ended rest) (start : Nat) :
    readPlain ⟨cs ++ rest, start⟩ = .ok (v, ⟨rest, start + cs.length⟩) := by
  have hdrop {size : Nat} (hsize : size
    ≤ cs.length) (hnone : cs.drop size = []) :
      Rest.drop size ⟨cs ++ rest, start⟩ = ⟨rest, start + cs.length⟩ := by
    have hfull : size = cs.length :=
      Nat.le_antisymm hsize (List.drop_eq_nil_iff.1 hnone)
    rw [Rest.drop, hfull, List.drop_left]
  unfold readPlain at h ⊢
  simp only [find?_words_append hrest, readNumber_append hrest] at h ⊢
  cases hword : words.find? fun w => w.1.toList.isPrefixOf cs with
  | some entry =>
      obtain ⟨word, value⟩ := entry
      simp only [hword, Except.ok.injEq, Prod.mk.injEq] at h ⊢
      obtain ⟨rfl, rfl⟩ := h
      have hprefix : word.toList <+: cs :=
        List.isPrefixOf_iff_prefix.1 (by simpa using List.find?_some hword)
      have hsize : word.length ≤ cs.length := by
        rw [← String.length_toList]
        exact hprefix.length_le
      exact ⟨rfl, hdrop hsize hall⟩
  | none =>
      simp only [hword] at h ⊢
      cases hnumber : readNumber cs with
      | none =>
          rw [hnumber] at h
          cases h
      | some found =>
          obtain ⟨value, size⟩ := found
          simp only [hnumber, Except.ok.injEq, Prod.mk.injEq] at h ⊢
          obtain ⟨rfl, rfl⟩ := h
          exact ⟨rfl, hdrop (size_le_of_readNumber hnumber) hall⟩

-- ======================================================= whole numbers

theorem digitsValue_toDigits (n : Nat) :
    digitsValue (Nat.toDigits 10 n) = n := by
  have hread :=
    Nat.ofDigitChars_toDigits (b := 10) (n := n) (by decide) (by decide)
  rw [Nat.ofDigitChars_eq_foldl] at hread
  simpa [digitsValue, Nat.mul_comm] using hread

/-- Only zero begins with a zero. -/
theorem head_toDigits {n : Nat} (h : n ≠ 0) :
    ∃ d ds, Nat.toDigits 10 n = d :: ds ∧ d ≠ '0' := by
  induction n using Nat.strongRecOn with
  | ind n ih =>
      by_cases hsmall : n < 10
      · refine ⟨n.digitChar, [], Nat.toDigits_of_lt_base hsmall, ?_⟩
        rwa [Ne, Nat.digitChar_eq_zero]
      · obtain ⟨d, ds, hdigits, hd⟩ := ih (n / 10) (by omega) (by omega)
        refine ⟨d, ds ++ [(n % 10).digitChar], ?_, hd⟩
        rw [Nat.toDigits_of_base_le (by decide) (by omega), hdigits]
        rfl

theorem wholePart_toDigits (n : Nat) :
    wholePart (Nat.toDigits 10 n) = (Nat.toDigits 10 n, []) := by
  by_cases hzero : n = 0
  · rw [hzero, Nat.toDigits_zero]
    rfl
  · obtain ⟨d, ds, hdigits, hd⟩ := head_toDigits hzero
    have hall : ∀ c ∈ d :: ds, c.isDigit = true := fun c hc =>
      Nat.isDigit_of_mem_toDigits (by decide) (by decide) (hdigits ▸ hc)
    have hspan : spanDigits (d :: ds) = (d :: ds, []) := by
      rw [spanDigits, List.takeWhile_eq_self_iff.2 hall,
        List.dropWhile_eq_nil_iff.2 hall]
    rw [hdigits]
    simp [wholePart, hd, hspan]

/-- Digits are read as the number they spell. -/
theorem readUnsigned_toDigits (negative : Bool) (n : Nat) :
    readUnsigned negative (Nat.toDigits 10 n)
      = some (.int (if negative then -(n : Int) else n),
        (Nat.toDigits 10 n).length) := by
  unfold readUnsigned
  rw [wholePart_toDigits]
  obtain ⟨d, ds, hdigits⟩ :=
    List.exists_cons_of_ne_nil (Nat.toDigits_ne_nil (b := 10) (n := n))
  have hvalue := digitsValue_toDigits n
  rw [hdigits] at hvalue ⊢
  simp [fraction, exponent, hvalue]

theorem find?_words_digit {d : Char} (h : d.isDigit = true) (ds : List Char) :
    (words.find? fun w => w.1.toList.isPrefixOf (d :: ds)) = none ∧
      (words.find? fun w => w.1.toList.isPrefixOf ('-' :: d :: ds)) = none := by
  have hne {c : Char} (hc : c.isDigit = false) : (c == d) = false := by
    rw [beq_eq_false_iff_ne]
    rintro rfl
    rw [h] at hc
    cases hc
  constructor
  · simp [words, List.isPrefixOf_cons_cons, hne]
  · simp [words, List.isPrefixOf_cons_cons, hne]

theorem toList_ofNat (m : Nat) : (toString (Int.ofNat m)).toList
    = Nat.toDigits 10 m :=
  String.toList_ofList

theorem toList_negSucc (m : Nat) :
    (toString (Int.negSucc m)).toList = '-' :: Nat.toDigits 10 (m + 1) := by
  rw [show toString (Int.negSucc m)
    = "-" ++ String.ofList (Nat.toDigits 10 (m + 1)) from rfl]
  simp

/-- A number begins with a digit. -/
theorem toDigits_eq_cons (m : Nat) :
    ∃ d ds, Nat.toDigits 10 m = d :: ds ∧ d.isDigit = true ∧ d ≠ '-' := by
  obtain ⟨d, ds, h⟩ :=
    List.exists_cons_of_ne_nil (Nat.toDigits_ne_nil (b := 10) (n := m))
  have hdigit : d.isDigit = true :=
    Nat.isDigit_of_mem_toDigits (b := 10) (n := m) (by decide)
      (by decide) (h ▸ List.mem_cons_self)
  refine ⟨d, ds, h, hdigit, ?_⟩
  rintro rfl
  cases hdigit

/-- A sign is no digit. -/
theorem length_toList_int (n : Int) :
    (toString n).toList.length
        - (if (toString n).toList.head? == some '-' then 1 else 0)
      = (Nat.toDigits 10 n.natAbs).length := by
  cases n with
  | ofNat m =>
      obtain ⟨d, ds, hd, -, hminus⟩ := toDigits_eq_cons m
      rw [toList_ofNat, show (Int.ofNat m).natAbs = m from rfl, hd]
      simp [hminus]
  | negSucc m =>
      rw [toList_negSucc]
      rfl

/-- A whole number of any size is read back. -/
theorem readPlain_int (n : Int) (position : Nat) :
    ∃ after : Rest, after.chars = [] ∧
      readPlain ⟨(toString n).toList, position⟩ = .ok (.int n, after) := by
  cases n with
  | ofNat m =>
      obtain ⟨d, ds, hd, hdigit, hminus⟩ := toDigits_eq_cons m
      have hread := readUnsigned_toDigits false m
      rw [toList_ofNat]
      rw [hd] at hread ⊢
      simp [readPlain, (find?_words_digit hdigit ds).1, readNumber, hminus,
        hread, Rest.drop]
  | negSucc m =>
      obtain ⟨d, ds, hd, hdigit, -⟩ := toDigits_eq_cons (m + 1)
      have hread : readUnsigned true (Nat.toDigits 10 (m + 1))
          = some (.int (Int.negSucc m), (Nat.toDigits 10 (m + 1)).length) :=
        readUnsigned_toDigits true (m + 1)
      rw [toList_negSucc]
      rw [hd] at hread ⊢
      simp [readPlain, (find?_words_digit hdigit ds).2, readNumber, hread,
        Rest.drop]

end Value.Json

-- ======================================================== real numbers

namespace Number

theorem isDigit_of_mem_ofGrid (n : Nat) (grid : Int) :
    ∀ c ∈ (Decimal.ofGrid n grid).digits, c.isDigit = true := by
  intro c hc
  have hkept := (List.dropWhile_suffix _).subset (List.mem_reverse.1 hc)
  exact Nat.isDigit_of_mem_toDigits (by decide) (by decide)
    (List.mem_reverse.1 hkept)

theorem isDigit_of_mem_shortest (v : Binary) : ∀ c ∈ (shortest v).digits,
    c.isDigit = true := by
  unfold shortest
  split
  · exact List.all_eq_true.1 (by decide)
  · rcases shortestOnGrid v with ⟨n, grid⟩
    exact isDigit_of_mem_ofGrid n grid

end Number

namespace Value.Json

/-- A character in the text of a number. -/
def isNumeral (c : Char) : Bool :=
  c.isDigit || "+-.eInfinityNa".toList.contains c

/-- A text that is made of numerals. -/
def Numeral (s : String) : Prop := ∀ c ∈ s.toList, isNumeral c = true

theorem numeral_of_all {s : String} (h : s.toList.all isNumeral = true) :
    Numeral s :=
  List.all_eq_true.1 h

theorem Numeral.append {s t : String} (hs : Numeral s) (ht : Numeral t) :
    Numeral (s ++ t) := by
  intro c hc
  rw [String.toList_append] at hc
  rcases List.mem_append.1 hc with h | h
  · exact hs c h
  · exact ht c h

theorem numeral_ofList {cs : List Char} (h : ∀ c ∈ cs, c.isDigit = true) :
    Numeral (String.ofList cs) := by
  intro c hc
  rw [String.toList_ofList] at hc
  simp [isNumeral, h c hc]

theorem isDigit_of_mem_zeros {k : Nat} {ds : List Char}
    (h : ∀ c ∈ ds, c.isDigit = true) :
    ∀ c ∈ List.replicate k '0' ++ ds, c.isDigit = true := by
  intro c hc
  rcases List.mem_append.1 hc with hzero | hdigit
  · rw [List.eq_of_mem_replicate hzero]
    decide
  · exact h c hdigit

theorem numeral_positional {d : Number.Decimal}
    (h : ∀ c ∈ d.digits, c.isDigit = true) : Numeral (Number.positional d) := by
  have hzero : Numeral "0." := numeral_of_all (by decide)
  have hwhole : Numeral ".0" := numeral_of_all (by decide)
  have hdot : Numeral "." := numeral_of_all (by decide)
  unfold Number.positional
  dsimp only
  split
  · exact hzero.append (numeral_ofList (isDigit_of_mem_zeros h))
  split
  · refine (numeral_ofList fun c hc => ?_).append hwhole
    rcases List.mem_append.1 hc with hdigit | hzeros
    · exact h c hdigit
    · rw [List.eq_of_mem_replicate hzeros]
      decide
  · refine ((numeral_ofList fun c hc => ?_).append hdot).append
      (numeral_ofList fun c hc => ?_)
    · exact h c (List.mem_of_mem_take hc)
    · exact h c (List.mem_of_mem_drop hc)

theorem numeral_withExponent {d : Number.Decimal}
    (h : ∀ c ∈ d.digits, c.isDigit = true) (width : Nat) :
    Numeral (Number.withExponent width d) := by
  have hempty : Numeral "" := numeral_of_all (by decide)
  have hdot : Numeral "." := numeral_of_all (by decide)
  have he : Numeral "e" := numeral_of_all (by decide)
  have hminus : Numeral "-" := numeral_of_all (by decide)
  have hplus : Numeral "+" := numeral_of_all (by decide)
  have hone {c : Char} (hc : c.isDigit = true) : Numeral c.toString := by
    intro b hb
    obtain rfl : b = c := by simpa [Char.toString] using hb
    simp [isNumeral, hc]
  have hdigits :=
    isDigit_of_mem_zeros
      (k := width - (Nat.toDigits 10 (d.point - 1).natAbs).length)
      fun c hc => Nat.isDigit_of_mem_toDigits (b := 10)
        (n := (d.point - 1).natAbs) (c := c) (by decide) (by decide) hc
  unfold Number.withExponent
  dsimp only
  refine ((Numeral.append ?_ he).append ?_).append (numeral_ofList hdigits)
  · split
    · exact hempty
    · rename_i c heq
      exact hone (h c (heq ▸ List.mem_cons_self))
    · rename_i c rest _ heq
      exact ((hone (h c (heq ▸ List.mem_cons_self))).append hdot).append
        (numeral_ofList fun b hb => h b (heq ▸ List.mem_cons_of_mem c hb))
  · split
    · exact hminus
    · exact hplus

/-- A number is written in digits, signs and letters. -/
theorem numeral_text (x : Float) : Numeral (Number.inJson.text x) := by
  have hempty : Numeral "" := numeral_of_all (by decide)
  have hminus : Numeral "-" := numeral_of_all (by decide)
  have hinfinity : Numeral "Infinity" := numeral_of_all (by decide)
  have hnan : Numeral "NaN" := numeral_of_all (by decide)
  have hsign (negative : Bool) : Numeral (if negative then "-" else "") := by
    cases negative with
    | true => exact hminus
    | false => exact hempty
  unfold Number.RealFormat.text
  split
  · exact hnan
  · exact (hsign _).append hinfinity
  · rename_i negative v _
    have hdigits := Number.isDigit_of_mem_shortest v
    refine (hsign _).append ?_
    split
    · exact numeral_positional hdigits
    · exact numeral_withExponent hdigits _

/-- No character of a number is a blank or begins anything else. -/
theorem ne_of_isNumeral {c : Char} (h : isNumeral c = true) :
    isSpace c = false ∧ c ≠ '"' ∧ c ≠ '[' ∧ c ≠ ']' ∧ c ≠ '\x7b' ∧ c ≠ '﻿' := by
  have hne {b : Char} (hb : isNumeral b = false) : c ≠ b := by
    rintro rfl
    rw [hb] at h
    cases h
  have hspace : c ≠ ' ' ∧ c ≠ '\t' ∧ c ≠ '\n' ∧ c ≠ '\r' :=
    ⟨hne (by decide), hne (by decide), hne (by decide), hne (by decide)⟩
  refine ⟨?_, hne (by decide), hne (by decide), hne (by decide),
    hne (by decide), hne (by decide)⟩
  simp [isSpace, hspace]

theorem head_words : ∀ w ∈ words.map Prod.fst, w.toList.head?.any isNumeral
    = true := by
  decide

theorem head_of_readUnsigned {negative : Bool} {cs : List Char}
    {found : Value × Nat} (h : readUnsigned negative cs = some found) :
    ∃ c more, cs = c :: more ∧ c.isDigit = true := by
  cases cs with
  | nil => cases h
  | cons c more =>
      refine ⟨c, more, rfl, ?_⟩
      by_contra hc
      have hzero : c ≠ '0' := by
        rintro rfl
        exact hc rfl
      have hwhole : wholePart (c :: more) = ([], c :: more) := by
        simp [wholePart, hzero, spanDigits, hc]
      rw [readUnsigned, hwhole] at h
      cases h

/-- A word or a number begins with a numeral. -/
theorem head_of_readPlain {r after : Rest} {v : Value}
    (h : readPlain r = .ok (v, after)) :
    ∃ c more, r.chars = c :: more ∧ isNumeral c = true := by
  unfold readPlain at h
  split at h
  · rename_i word value hfind
    have hmem : word ∈ words.map Prod.fst :=
      List.mem_map_of_mem (f := Prod.fst) (List.mem_of_find?_eq_some hfind)
    have hword := List.find?_some hfind
    dsimp only at hword
    have hhead := head_words word hmem
    obtain ⟨rest, hrest⟩ := List.isPrefixOf_iff_prefix.1 hword
    cases hchars : word.toList with
    | nil =>
        rw [hchars] at hhead
        cases hhead
    | cons c tail =>
        rw [hchars] at hhead hrest
        exact ⟨c, tail ++ rest, hrest.symm, hhead⟩
  · split at h
    · rename_i value size hread
      unfold readNumber at hread
      split at hread
      · rename_i rest heq
        exact ⟨'-', rest, heq, rfl⟩
      · obtain ⟨c, more, hcs, hdigit⟩ := head_of_readUnsigned hread
        exact ⟨c, more, hcs, by rw [isNumeral, hdigit, Bool.true_or]⟩
    · cases h

theorem skipSpace_of_noSpace {r : Rest} (h : ∀ c ∈ r.chars, isSpace c = false) :
    r.skipSpace = r := by
  obtain ⟨chars, position⟩ := r
  cases chars with
  | nil => rfl
  | cons c more => simp [Rest.skipSpace, skipSpaceFrom, h c List.mem_cons_self]

/-- A word or a number is read off the front. -/
theorem suffix_of_readPlain {r after : Rest} {v : Value}
    (h : readPlain r = .ok (v, after)) : after.chars <:+ r.chars := by
  unfold readPlain at h
  split at h
  · obtain ⟨-, rfl⟩ := Prod.mk.inj (Except.ok.inj h)
    exact List.drop_suffix _ _
  · split at h
    · obtain ⟨-, rfl⟩ := Prod.mk.inj (Except.ok.inj h)
      exact List.drop_suffix _ _
    · cases h

/-- A word or a number is read within a limit, unless it is a whole number with
more digits. -/
theorem readWithin_eq {limit : Option Nat} {r after : Rest} {v : Value}
    (h : readPlain r = .ok (v, after))
    (hshort : ∀ n most, v = .int n → limit = some most →
      after.position - r.position - (if r.chars.head? == some '-' then 1 else 0)
        ≤ most) :
    readWithin limit r = .ok (v, after) := by
  unfold readWithin
  rw [h]
  cases limit with
  | none => rfl
  | some most =>
      cases v with
      | int n => exact if_neg (Nat.not_lt.2 (hshort n most rfl rfl))
      | _ => rfl

/-- A text that begins with a numeral is read as a word or a number. -/
theorem readValue_numeral (limit : Option Nat) {c : Char}
    (h : isNumeral c = true) (fuel position : Nat) (more : List Char) :
    readValue limit (fuel + 1) ⟨c :: more, position⟩
      = readWithin limit ⟨c :: more, position⟩ := by
  obtain ⟨-, hquote, hlist, -, hrecord, -⟩ := ne_of_isNumeral h
  rw [readValue]
  split
  · rename_i heq
    exact absurd (List.cons.inj heq).1 hquote
  · rename_i heq
    exact absurd (List.cons.inj heq).1 hlist
  · rename_i heq
    exact absurd (List.cons.inj heq).1 hrecord
  · rfl

/-- A number whose text spells it is read from that text, and nothing is
left. -/
theorem readPlain_real {x : Float}
    (h : read (Number.inJson.text x) = .ok (.real x)) :
    ∃ after : Rest, after.chars = [] ∧
      readPlain ⟨(Number.inJson.text x).toList, 0⟩ = .ok (.real x, after) := by
  have hall := numeral_text x
  unfold Numeral at hall
  unfold read readUpTo at h
  cases htext : (Number.inJson.text x).toList with
  | nil =>
      rw [htext] at h
      cases h
  | cons c more =>
      rw [htext] at h hall
      have hc := hall c List.mem_cons_self
      have hskip : Rest.skipSpace ⟨c :: more, 0⟩ = ⟨c :: more, 0⟩ :=
        skipSpace_of_noSpace fun b hb => (ne_of_isNumeral (hall b hb)).1
      split at h
      · rename_i heq
        exact absurd (List.cons.inj heq).1 (ne_of_isNumeral hc).2.2.2.2.2
      · have hplain : readWithin none ⟨c :: more, 0⟩
            = readPlain ⟨c :: more, 0⟩ := rfl
        rw [hskip, readValue_numeral none hc, hplain] at h
        cases hread : readPlain ⟨c :: more, 0⟩ with
        | error why =>
            rw [hread] at h
            cases h
        | ok result =>
            obtain ⟨value, after⟩ := result
            have hafter : after.skipSpace = after :=
              skipSpace_of_noSpace fun b hb =>
              (ne_of_isNumeral
                (hall b ((suffix_of_readPlain hread).subset hb))).1
            rw [hread] at h
            simp only [hafter] at h
            split at h
            · rename_i hempty
              obtain rfl := Except.ok.inj h
              exact ⟨after, List.isEmpty_iff.1 hempty, rfl⟩
            · cases h

end Value.Json

end SourceAudit
