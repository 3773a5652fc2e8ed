/-
A text written as a JSON string is read back.

A string is read one character at a time: whatever is written for a character,
be it the character itself, a letter after a backslash or one or two code units
in base 16, adds that character and nothing else (`stringFrom_escapeChar`).
-/
import Mathlib.Data.List.Basic
import SourceAudit.Value.Json.Reader
import SourceAudit.Value.Json.Writer

namespace SourceAudit

-- ============================================================== digits

namespace Text

theorem hexDigit?_digitChar {d : Nat} (h : d < 16) :
    hexDigit? d.digitChar = some d := by
  revert d
  decide

theorem hexNumber?_append (ds : List Char) (d : Char) :
    hexNumber? (ds ++ [d])
      = (hexNumber? ds).bind fun n => (hexDigit? d).map fun v =>
        16 * n + v := by
  unfold hexNumber?
  rw [List.foldlM_append]
  simp only [List.foldlM_cons, List.foldlM_nil, bind_pure]
  rfl

/-- A number written in base 16 is read back. -/
theorem hexNumber?_toDigits (n : Nat) : hexNumber? (Nat.toDigits 16 n)
    = some n := by
  induction n using Nat.strongRecOn with
  | ind n ih =>
      by_cases h : n < 16
      · rw [Nat.toDigits_of_lt_base h]
        simp [hexNumber?, hexDigit?_digitChar h]
      · rw [Nat.toDigits_of_base_le (by decide) (by omega), hexNumber?_append,
          ih (n / 16) (by omega),
          hexDigit?_digitChar (Nat.mod_lt n (by decide))]
        simp only [Option.bind_some, Option.map_some, Option.some.injEq]
        omega

/-- Zeros in front change nothing. -/
theorem hexNumber?_zeros (k : Nat) (ds : List Char) :
    hexNumber? (List.replicate k '0' ++ ds) = hexNumber? ds := by
  induction k with
  | zero => rfl
  | succ k ih =>
      rw [List.replicate_succ, List.cons_append, hexNumber?, List.foldlM_cons]
      exact ih

end Text

namespace Value.Json

theorem length_hex {n : Nat} (h : n < 0x10000) :
    (Text.hex 4 n).toList.length = 4 := by
  have hlen : (Nat.toDigits 16 n).length ≤ 4 :=
    (Nat.length_toDigits_le_iff (by decide) (by decide)).2 (by omega)
  simp [Text.hex]
  omega

/-- A code unit written as an escape is read back. -/
theorem unit?_hex {n : Nat} (h : n < 0x10000) : unit? (Text.hex 4 n).toList
    = some n := by
  have hread : Text.hexNumber? (Text.hex 4 n).toList = some n := by
    rw [Text.hex, String.toList_ofList, Text.hexNumber?_zeros,
      Text.hexNumber?_toDigits]
  simp [unit?, length_hex h, hread]

-- ============================================================= strings

/-- What an escape covers is skipped. -/
theorem stringFrom_skip (start : Nat) (done : List Char) (position : Nat)
    (covered rest : List Char) :
    stringFrom start done position covered.length (covered ++ rest)
      = stringFrom start done (position + covered.length) 0 rest := by
  induction covered generalizing position with
  | nil => rfl
  | cons c covered ih =>
      rw [List.length_cons, List.cons_append, stringFrom, ih]
      congr 1
      omega

/-- The ways of writing a character inside a string. -/
inductive WrittenAs (c : Char) (cs : List Char) : Prop where
  | letter {e : Char} (himage : simpleEscape? e = some c) (htext : cs
      = ['\\', e])
  | itself (hquote : c ≠ '"') (hslash : c ≠ '\\') (hcontrol : 0x1F < c.toNat)
      (htext : cs = [c])
  | unit (hplane : c.toNat < 0x10000) (htext : cs = (escapeUnit c.toNat).toList)
  | pair (hplane : 0x10000 ≤ c.toNat)
      (htext : cs = (escapeUnit (0xD800 + (c.toNat - 0x10000) / 0x400)).toList
        ++ (escapeUnit (0xDC00 + (c.toNat - 0x10000) % 0x400)).toList)

/-- No character is a surrogate. -/
theorem not_surrogate (c : Char) : ¬(0xD800 ≤ c.toNat && c.toNat ≤ 0xDBFF)
    = true := by
  have hvalid : c.toNat < 0xD800 ∨ 0xDFFF < c.toNat ∧
      c.toNat < 0x110000 := c.valid
  simp only [Bool.and_eq_true, decide_eq_true_eq]
  omega

theorem writtenAs_escapeChar (c : Char) :
    WrittenAs c (escapeChar c).toList := by
  have hcode (n : Nat) (h : (c.toNat == n) = true) : c = Char.ofNat n := by
    rw [← beq_iff_eq.1 h, Char.ofNat_toNat]
  fun_cases escapeChar c with
  | case1 h => exact .letter (e := '"') (by rw [beq_iff_eq.1 h]; rfl) rfl
  | case2 _ h => exact .letter (e := '\\') (by rw [beq_iff_eq.1 h]; rfl) rfl
  | case3 _ _ h => exact .letter (e := 'n') (by rw [beq_iff_eq.1 h]; rfl) rfl
  | case4 _ _ _ h => exact .letter (e := 'r') (by rw [beq_iff_eq.1 h]; rfl) rfl
  | case5 _ _ _ _ h =>
      exact .letter (e := 't') (by rw [beq_iff_eq.1 h]; rfl) rfl
  | case6 _ _ _ _ _ h =>
      exact .letter (e := 'b') (by rw [hcode 0x08 h]; rfl) rfl
  | case7 _ _ _ _ _ _ h =>
      exact .letter (e := 'f') (by rw [hcode 0x0C h]; rfl) rfl
  | case8 hquote hslash _ _ _ _ _ h =>
      simp only [Bool.and_eq_true, decide_eq_true_eq] at h
      exact .itself (by simpa using hquote) (by simpa using hslash) h.1
        (by simp [Char.toString])
  | case9 _ _ _ _ _ _ _ _ hplane => exact .unit hplane rfl
  | case10 _ _ _ _ _ _ _ _ hplane n =>
      exact .pair (Nat.not_lt.1 hplane) (by rw [String.toList_append])

section Escapes

variable (start : Nat) (done : List Char) (position : Nat)

/-- A character that stands for itself. -/
theorem stringFrom_plain {c : Char} (hquote : c ≠ '"') (hslash : c ≠ '\\')
    (hcontrol : 0x1F < c.toNat) (rest : List Char) :
    stringFrom start done position 0 (c :: rest)
      = stringFrom start (c :: done) (position + 1) 0 rest := by
  rw [stringFrom.eq_def]
  simp only [beq_iff_eq, hquote, hslash, if_false,
    if_neg (Nat.not_le.2 hcontrol)]

/-- An escape of one letter. -/
theorem stringFrom_simple {e image : Char} (h : simpleEscape? e = some image)
    (rest : List Char) :
    stringFrom start done position 0 ('\\' :: e :: rest)
      = stringFrom start (image :: done) (position + 2) 0 rest := by
  have hu : e ≠ 'u' := by
    rintro rfl
    have hnone : simpleEscape? 'u' = none := by decide
    rw [hnone] at h
    cases h
  rw [stringFrom.eq_5 _ _ _ _ _ _ hu, if_neg (by decide), if_pos (by decide), h]
  exact stringFrom_skip start (image :: done) (position + 1) [e] rest

/-- What follows the letter of an escape by code unit. -/
theorem stringFrom_escapeUnit {n : Nat} (hn : n < 0x10000) {rest : List Char}
    (hrest : rest ≠ []) :
    stringFrom start done position 0 ((escapeUnit n).toList ++ rest)
      = if 0xD800 ≤ n && n ≤ 0xDBFF then
          match lowUnit? rest with
          | some low =>
            stringFrom start
              (Char.ofNat (0x10000 + (n - 0xD800) * 0x400 +
                (low - 0xDC00)) :: done)
              (position + 1) 11 ('u' :: (Text.hex 4 n).toList ++ rest)
          | none => stringFrom start (Char.ofNat 0xFFFD :: done)
            (position + 6) 0 rest
        else stringFrom start (Char.ofNat n :: done) (position + 6) 0 rest := by
  have hlength := length_hex hn
  have htake : ((Text.hex 4 n).toList ++ rest).take 4
      = (Text.hex 4 n).toList := by
    exact List.take_left' hlength
  have hdrop : ((Text.hex 4 n).toList ++ rest).drop 4 = rest := by
    exact List.drop_left' hlength
  have hskip (more : List Char) :
      stringFrom start more (position + 1) 5
          ('u' :: (Text.hex 4 n).toList ++ rest)
        = stringFrom start more (position + 6) 0 rest := by
    have h := stringFrom_skip start more (position + 1)
      ('u' :: (Text.hex 4 n).toList) rest
    rw [List.length_cons, hlength] at h
    exact h
  have htext : (escapeUnit n).toList ++ rest
      = '\\' :: 'u' :: ((Text.hex 4 n).toList ++ rest) := by
    rw [escapeUnit, String.toList_append]
    rfl
  rw [htext, stringFrom]
  simp only [beq_iff_eq, Char.reduceEq, if_false, if_true, htake, hdrop,
    unit?_hex hn, List.isEmpty_eq_false_iff.2 hrest, Bool.false_eq_true]
  split
  · cases lowUnit? rest with
    | some low => rfl
    | none => exact hskip _
  · exact hskip _

/-- The low unit of a pair is found after the high one. -/
theorem lowUnit?_escapeUnit {low : Nat} (hlow : 0xDC00 ≤ low)
    (hhigh : low ≤ 0xDFFF) {rest : List Char} (hrest : rest ≠ []) :
    lowUnit? ((escapeUnit low).toList ++ rest) = some low := by
  have hlength := length_hex (n := low) (by omega)
  have htext : (escapeUnit low).toList ++ rest
      = '\\' :: 'u' :: ((Text.hex 4 low).toList ++ rest) := by
    rw [escapeUnit, String.toList_append]
    rfl
  obtain ⟨c, more, rfl⟩ := List.exists_cons_of_ne_nil hrest
  have htake : ((Text.hex 4 low).toList ++ c :: more).take 4
      = (Text.hex 4 low).toList := by
    exact List.take_left' hlength
  have hdrop : ((Text.hex 4 low).toList ++ c :: more).drop 4 = c :: more := by
    exact List.drop_left' hlength
  rw [htext]
  simp only [lowUnit?, htake, hdrop, unit?_hex (n := low) (by omega)]
  simp [hlow, hhigh]

/-- The two units of a pair stand for one character. -/
theorem stringFrom_pair {high low : Nat} (hhigh : 0xD800 ≤ high ∧ high ≤ 0xDBFF)
    (hlow : 0xDC00 ≤ low ∧ low ≤ 0xDFFF) {rest : List Char}
    (hrest : rest ≠ []) :
    stringFrom start done position 0
        ((escapeUnit high).toList ++ ((escapeUnit low).toList ++ rest))
      = stringFrom start
          (Char.ofNat (0x10000 + (high - 0xD800) * 0x400 +
            (low - 0xDC00)) :: done)
          (position + 1 + 11) 0 rest := by
  have hsize :
      ('u' :: (Text.hex 4 high).toList ++ (escapeUnit low).toList).length
        = 11 := by
    have hfirst := length_hex (n := high) (by omega)
    have hsecond := length_hex (n := low) (by omega)
    rw [escapeUnit, String.toList_append]
    simp only [List.length_append, List.length_cons, hfirst, hsecond]
    rfl
  rw [stringFrom_escapeUnit start done position (by omega) (by simp [hrest]),
    lowUnit?_escapeUnit hlow.1 hlow.2 hrest, if_pos (by simp [hhigh])]
  simp only
  rw [← List.append_assoc, ← hsize, stringFrom_skip]

/-- The code units of a character beyond the basic plane. -/
theorem code_of_units {c : Char} (hc : 0x10000 ≤ c.toNat) :
    (c.toNat - 0x10000) / 0x400 ≤ 0x3FF ∧
      0x10000 + (0xD800 + (c.toNat - 0x10000) / 0x400 - 0xD800) * 0x400
        + (0xDC00 + (c.toNat - 0x10000) % 0x400 - 0xDC00) = c.toNat := by
  have hbound : c.toNat < 0x110000 := by
    rcases c.valid with h | h
    · exact Nat.lt_trans h (by decide)
    · exact h.2
  omega

/-- What is written for a character is read as that character. -/
theorem stringFrom_escapeChar (c : Char) {rest : List Char}
    (hrest : rest ≠ []) :
    ∃ after, stringFrom start done position 0 ((escapeChar c).toList ++ rest)
      = stringFrom start (c :: done) after 0 rest := by
  cases writtenAs_escapeChar c with
  | letter himage htext =>
      rw [htext]
      exact ⟨_, stringFrom_simple start done position himage rest⟩
  | itself hquote hslash hcontrol htext =>
      rw [htext]
      exact ⟨_,
        stringFrom_plain start done position hquote hslash hcontrol rest⟩
  | unit hplane htext =>
      rw [htext, stringFrom_escapeUnit start done position hplane hrest,
        if_neg (not_surrogate c), Char.ofNat_toNat]
      exact ⟨_, rfl⟩
  | pair hplane htext =>
      obtain ⟨hsmall, hcode⟩ := code_of_units hplane
      rw [htext, List.append_assoc,
        stringFrom_pair start done position (by omega) (by omega) hrest, hcode,
        Char.ofNat_toNat]
      exact ⟨_, rfl⟩

end Escapes

/-- The characters of a string are read one after another. -/
theorem stringFrom_escaped (start position : Nat) (done cs rest : List Char) :
    ∃ after, stringFrom start done position 0
        (cs.flatMap (fun c => (escapeChar c).toList) ++ '"' :: rest)
      = .ok (String.ofList (done.reverse ++ cs), ⟨rest, after⟩) := by
  induction cs generalizing done position with
  | nil =>
      refine ⟨position + 1, ?_⟩
      rw [List.flatMap_nil, List.nil_append, List.append_nil, stringFrom.eq_def]
      rfl
  | cons c cs ih =>
      have hrest : cs.flatMap (fun c => (escapeChar c).toList) ++ '"' :: rest
          ≠ [] := by simp
      obtain ⟨next, hnext⟩ := stringFrom_escapeChar start done position c hrest
      obtain ⟨after, hafter⟩ := ih next (c :: done)
      refine ⟨after, ?_⟩
      rw [List.flatMap_cons, List.append_assoc, hnext, hafter,
        List.reverse_cons, List.append_assoc]
      rfl

/-- A text written as a string is read back. -/
theorem readString_string (s : String) (position : Nat) (rest : List Char) :
    ∃ inside after, (string s).toList ++ rest = '"' :: inside ∧
      readString ⟨inside, position⟩ = .ok (s, ⟨rest, after⟩) := by
  obtain ⟨after, hafter⟩ :=
    stringFrom_escaped (position - 1) position [] s.toList rest
  refine ⟨_, after, ?_, hafter.trans ?_⟩
  · rw [string, String.toList_append, String.toList_append, String.toList_join,
      List.flatMap_map]
    simp
  · simp

end Value.Json

end SourceAudit
