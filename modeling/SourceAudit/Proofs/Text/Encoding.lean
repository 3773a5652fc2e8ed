/-
Bytes and texts: a text written as bytes is read back as it was.

Reading takes one character at a time, so the argument is about one character:
the bytes it is written with make the reader step over exactly these bytes and
yield it (`utf8Step_encodeChar`). Line endings are unified after that, which
only touches carriage returns; a text read from a file holds none
(`decodeLenient_noReturn`), and a text that holds none is the text of a file
(`decodeLenient_encode`).
-/
import SourceAudit.Text.Encoding
import Mathlib.Algebra.Group.Nat.Defs

namespace SourceAudit.Text

-- ============================================================ one byte

/-- A byte made of a number below 256 is that number. -/
theorem toNat_byte {n : Nat} (h : n < 256) : (UInt8.ofNat n).toNat = n := by
  rw [UInt8.toNat_ofNat']
  exact Nat.mod_eq_of_lt h

/-- The low bits of a byte, as a remainder. -/
theorem toNat_byte_and {n : Nat} (h : n < 256) (k : Nat)
    (hk : 2 ^ k - 1 < 256) :
    (UInt8.ofNat n &&& UInt8.ofNat (2 ^ k - 1)).toNat = n % 2 ^ k := by
  rw [UInt8.toNat_and, toNat_byte h, toNat_byte hk,
    Nat.and_two_pow_sub_one_eq_mod]

/-- A byte that carries six bits after the first one is one that continues a
character, and these are the bits it carries. -/
theorem continuation_byte {n : Nat} (h : n < 64) :
    isContinuation (UInt8.ofNat (n + 128)) = true ∧
      payload (UInt8.ofNat (n + 128)) = n := by
  have hn : (UInt8.ofNat (n + 128)).toNat = n + 128 := toNat_byte (by omega)
  constructor
  · unfold isContinuation
    rw [Bool.and_eq_true, decide_eq_true_eq, decide_eq_true_eq,
      UInt8.le_iff_toNat_le, UInt8.lt_iff_toNat_lt, hn]
    constructor
    · show 128 ≤ n + 128
      omega
    · show n + 128 < 192
      omega
  · unfold payload
    have := toNat_byte_and (n := n + 128) (by omega) 6 (by decide)
    rw [show (0x3F : UInt8) = UInt8.ofNat (2 ^ 6 - 1) from rfl, this]
    omega

/-- Comparing a byte with a bound is comparing the numbers. -/
theorem byte_lt {n : Nat} (h : n < 256) (k : UInt8) :
    UInt8.ofNat n < k ↔ n < k.toNat := by
  rw [UInt8.lt_iff_toNat_lt, toNat_byte h]

/-- Two bytes are equal when the numbers are. -/
theorem byte_eq {n : Nat} (h : n < 256) (k : UInt8) :
    UInt8.ofNat n = k ↔ n = k.toNat := by
  rw [← UInt8.toNat_inj, toNat_byte h]

-- ======================================================= one character

/-- A character of one byte. -/
theorem utf8Step_one {n : Nat} (h : n < 0x80) (rest : List UInt8) :
    utf8Step (UInt8.ofNat n) rest = .char (Char.ofNat n) 1 := by
  have hlt : UInt8.ofNat n < 0x80 := (byte_lt (by omega) _).2 h
  unfold utf8Step
  rw [if_pos hlt, toNat_byte (by omega)]

/-- A character of two bytes. -/
theorem utf8Step_two {n : Nat} (h₁ : 0x80 ≤ n) (h₂ : n < 0x800)
    (rest : List UInt8) :
    utf8Step (UInt8.ofNat (n / 64 % 32 + 0xC0))
      (UInt8.ofNat (n % 64 + 0x80) :: rest)
      = .char (Char.ofNat n) 2 := by
  have hlead : n / 64 % 32 + 0xC0 < 256 := by omega
  obtain ⟨hb, hbp⟩ := continuation_byte (n := n % 64) (by omega)
  have hbits := toNat_byte_and hlead 5 (by decide)
  simp only [utf8Step, byte_lt hlead, UInt8.reduceToNat]
  rw [if_neg (by omega), if_neg (by omega), if_pos (by omega)]
  simp only [hb, if_true, hbp]
  rw [show (0x1F : UInt8) = UInt8.ofNat (2 ^ 5 - 1) from rfl, hbits]
  congr 2
  omega

/-- The second of three bytes is in its range: the first one is 0xE0 only for
numbers of at least 0x800, and 0xED only below the surrogates. -/
theorem secondOfThree_encoded {n : Nat} (h₁ : 0x800 ≤ n) (h₂ : n < 0x10000)
    (hs : n < 0xD800 ∨ 0xDFFF < n) :
    secondOfThree (UInt8.ofNat (n / 4096 % 16 + 0xE0))
      (UInt8.ofNat (n / 64 % 64 + 0x80))
      = true := by
  have hlead : n / 4096 % 16 + 0xE0 < 256 := by omega
  have hbyte : n / 64 % 64 + 0x80 < 256 := by omega
  unfold secondOfThree
  rw [(continuation_byte (n := n / 64 % 64) (by omega)).1, Bool.true_and,
    Bool.not_eq_true']
  split
  case isTrue hlt =>
    rw [byte_lt hbyte] at hlt
    have hlt' : n / 64 % 64 + 0x80 < 160 := hlt
    rw [beq_eq_false_iff_ne, Ne, byte_eq hlead]
    show ¬ _ = 224
    omega
  case isFalse hlt =>
    rw [byte_lt hbyte] at hlt
    have hlt' : ¬ n / 64 % 64 + 0x80 < 160 := hlt
    rw [beq_eq_false_iff_ne, Ne, byte_eq hlead]
    show ¬ _ = 237
    omega

/-- A character of three bytes. -/
theorem utf8Step_three {n : Nat} (h₁ : 0x800 ≤ n) (h₂ : n < 0x10000)
    (hs : n < 0xD800 ∨ 0xDFFF < n) (rest : List UInt8) :
    utf8Step (UInt8.ofNat (n / 4096 % 16 + 0xE0))
        (UInt8.ofNat (n / 64 % 64 + 0x80) ::
          UInt8.ofNat (n % 64 + 0x80) :: rest)
      = .char (Char.ofNat n) 3 := by
  have hlead : n / 4096 % 16 + 0xE0 < 256 := by omega
  obtain ⟨-, hbp⟩ := continuation_byte (n := n / 64 % 64) (by omega)
  obtain ⟨hc, hcp⟩ := continuation_byte (n := n % 64) (by omega)
  have hbits := toNat_byte_and hlead 4 (by decide)
  simp only [utf8Step, byte_lt hlead, UInt8.reduceToNat]
  rw [if_neg (by omega), if_neg (by omega), if_neg (by omega),
    if_pos (by omega)]
  simp only [secondOfThree_encoded h₁ h₂ hs, hc, Bool.not_true,
    Bool.false_eq_true, if_false, hbp, hcp]
  rw [show (0x0F : UInt8) = UInt8.ofNat (2 ^ 4 - 1) from rfl, hbits]
  congr 2
  omega

/-- The second of four bytes is in its range: the first one is 0xF0 only for
numbers of at least 0x10000, and 0xF4 only up to the last code point. -/
theorem secondOfFour_encoded {n : Nat} (h₁ : 0x10000 ≤ n) (h₂ : n < 0x110000) :
    secondOfFour (UInt8.ofNat (n / 262144 % 8 + 0xF0))
      (UInt8.ofNat (n / 4096 % 64 + 0x80))
      = true := by
  have hlead : n / 262144 % 8 + 0xF0 < 256 := by omega
  have hbyte : n / 4096 % 64 + 0x80 < 256 := by omega
  unfold secondOfFour
  rw [(continuation_byte (n := n / 4096 % 64) (by omega)).1, Bool.true_and,
    Bool.not_eq_true']
  split
  case isTrue hlt =>
    rw [byte_lt hbyte] at hlt
    have hlt' : n / 4096 % 64 + 0x80 < 144 := hlt
    rw [beq_eq_false_iff_ne, Ne, byte_eq hlead]
    show ¬ _ = 240
    omega
  case isFalse hlt =>
    rw [byte_lt hbyte] at hlt
    have hlt' : ¬ n / 4096 % 64 + 0x80 < 144 := hlt
    rw [beq_eq_false_iff_ne, Ne, byte_eq hlead]
    show ¬ _ = 244
    omega

/-- A character of four bytes. -/
theorem utf8Step_four {n : Nat} (h₁ : 0x10000 ≤ n) (h₂ : n < 0x110000)
    (rest : List UInt8) :
    utf8Step (UInt8.ofNat (n / 262144 % 8 + 0xF0))
        (UInt8.ofNat (n / 4096 % 64 + 0x80) ::
          UInt8.ofNat (n / 64 % 64 + 0x80) ::
            UInt8.ofNat (n % 64 + 0x80) :: rest)
      = .char (Char.ofNat n) 4 := by
  have hlead : n / 262144 % 8 + 0xF0 < 256 := by omega
  obtain ⟨-, hbp⟩ := continuation_byte (n := n / 4096 % 64) (by omega)
  obtain ⟨hc, hcp⟩ := continuation_byte (n := n / 64 % 64) (by omega)
  obtain ⟨hd, hdp⟩ := continuation_byte (n := n % 64) (by omega)
  have hbits := toNat_byte_and hlead 3 (by decide)
  simp only [utf8Step, byte_lt hlead, UInt8.reduceToNat]
  rw [if_neg (by omega), if_neg (by omega), if_neg (by omega),
    if_neg (by omega), if_pos (by omega)]
  simp only [secondOfFour_encoded h₁ h₂, hc, hd, Bool.not_true,
    Bool.false_eq_true, if_false, hbp, hcp, hdp]
  rw [show (0x07 : UInt8) = UInt8.ofNat (2 ^ 3 - 1) from rfl, hbits]
  congr 2
  omega

/-- Reading one character off the bytes it is written with takes all of them and
yields it, whatever follows. -/
theorem utf8Step_encodeChar (c : Char) (rest : List UInt8) :
    ∃ lead tail, String.utf8EncodeChar c = lead :: tail ∧
      utf8Step lead (tail ++ rest) = .char c (tail.length + 1) := by
  have hchar : Char.ofNat c.val.toNat = c := Char.ofNat_toNat c
  have hvalid : c.val.toNat < 0xD800 ∨
      (0xDFFF < c.val.toNat ∧ c.val.toNat < 0x110000) := c.valid
  unfold String.utf8EncodeChar
  dsimp only
  split
  case isTrue h₁ =>
    exact ⟨_, [], rfl, by rw [utf8Step_one (by omega), hchar]; rfl⟩
  case isFalse h₁ =>
    split
    case isTrue h₂ =>
      exact ⟨_, [_], rfl, by
        rw [List.cons_append, utf8Step_two (by omega) (by omega), hchar]; rfl⟩
    case isFalse h₂ =>
      split
      case isTrue h₃ =>
        exact ⟨_, [_, _], rfl, by
          rw [List.cons_append, List.cons_append,
            utf8Step_three (by omega) (by omega) (by omega), hchar]; rfl⟩
      case isFalse h₃ =>
        exact ⟨_, [_, _, _], rfl, by
          rw [List.cons_append, List.cons_append, List.cons_append,
            utf8Step_four (by omega) (by omega), hchar]; rfl⟩

-- =============================================================== texts

/-- Bytes that a character covers are skipped. -/
theorem decodeLenientFrom_skip (done : List Char) (covered rest : List UInt8) :
    decodeLenientFrom done covered.length (covered ++ rest)
      = decodeLenientFrom done 0 rest := by
  induction covered with
  | nil => rfl
  | cons b covered ih => exact ih

/-- The bytes of a text are read back as its characters. -/
theorem decodeLenientFrom_encoded (cs done : List Char) :
    decodeLenientFrom done 0 (cs.flatMap String.utf8EncodeChar)
      = done.reverse ++ cs := by
  induction cs generalizing done with
  | nil => rw [List.append_nil]; rfl
  | cons c cs ih =>
      obtain ⟨lead, tail, hbytes, hstep⟩ :=
        utf8Step_encodeChar c (cs.flatMap String.utf8EncodeChar)
      rw [List.flatMap_cons, hbytes, List.cons_append]
      unfold decodeLenientFrom
      rw [hstep]
      show decodeLenientFrom (c :: done) tail.length _ = _
      rw [decodeLenientFrom_skip, ih, List.reverse_cons, List.append_assoc]
      rfl

theorem decodeFrom_skip (position : Nat) (done : List Char)
    (covered rest : List UInt8) :
    decodeFrom position done covered.length (covered ++ rest)
      = decodeFrom (position + covered.length) done 0 rest := by
  induction covered generalizing position with
  | nil => rfl
  | cons b covered ih =>
      rw [List.length_cons, ← Nat.add_assoc, Nat.add_right_comm]
      exact ih (position + 1)

/-- Strict reading finds no flaw in the bytes of a text. -/
theorem decodeFrom_encoded (position : Nat) (cs done : List Char) :
    decodeFrom position done 0 (cs.flatMap String.utf8EncodeChar)
      = .ok (done.reverse ++ cs) := by
  induction cs generalizing position done with
  | nil => rw [List.append_nil]; rfl
  | cons c cs ih =>
      obtain ⟨lead, tail, hbytes, hstep⟩ :=
        utf8Step_encodeChar c (cs.flatMap String.utf8EncodeChar)
      rw [List.flatMap_cons, hbytes, List.cons_append]
      unfold decodeFrom
      rw [hstep]
      show decodeFrom (position + 1) (c :: done) tail.length _ = _
      rw [decodeFrom_skip, ih, List.reverse_cons, List.append_assoc]
      rfl

/-- The bytes of an array from a place on are listed after those before. -/
theorem toList_loop (bytes : ByteArray) (i : Nat) (done : List UInt8) :
    ByteArray.toList.loop bytes i done = done.reverse ++
      bytes.data.toList.drop i := by
  fun_induction ByteArray.toList.loop bytes i done with
  | case1 i done h ih =>
      have hi : i < bytes.data.toList.length := h
      have hget : bytes.get! i = bytes.data.toList[i] :=
        getElem!_pos bytes.data i h
      rw [ih, hget, List.reverse_cons, List.append_assoc,
        List.drop_eq_getElem_cons hi]
      rfl
  | case2 i done h =>
      rw [List.drop_eq_nil_of_le (Nat.not_lt.1 h), List.append_nil]

/-- The bytes of a text are those of its characters. -/
theorem encode_eq_flatMap (s : String) :
    encode s = s.toList.flatMap String.utf8EncodeChar := by
  unfold encode ByteArray.toList
  rw [toList_loop, String.toUTF8_eq_toByteArray, ← String.utf8Encode_toList]
  unfold List.utf8Encode
  rw [List.drop_zero, List.reverse_nil, List.nil_append]
  exact List.toList_data_toByteArray

/-- Unifying line endings leaves a text without carriage returns alone. -/
theorem unifyNewlinesFrom_noReturn {cs : List Char} (h : '\r' ∉ cs)
    (done : List Char) : unifyNewlinesFrom done cs = done.reverse ++ cs := by
  induction cs generalizing done with
  | nil => rw [List.append_nil]; rfl
  | cons c cs ih =>
      obtain ⟨hc, hcs⟩ := List.ne_and_not_mem_of_not_mem_cons h
      rw [unifyNewlinesFrom.eq_3 _ _ _ (fun _ hr _ => hc hr.symm), ih hcs]
      rw [if_neg (by rw [beq_iff_eq]; exact fun hr => hc hr.symm),
        List.reverse_cons, List.append_assoc]
      rfl

/-- Unifying line endings leaves no carriage return. -/
theorem noReturn_unifyNewlinesFrom {done : List Char} (h : '\r' ∉ done)
    (cs : List Char) : '\r' ∉ unifyNewlinesFrom done cs := by
  fun_induction unifyNewlinesFrom done cs with
  | case1 done => rwa [List.mem_reverse]
  | case2 done rest ih =>
      exact ih (List.not_mem_cons_of_ne_of_not_mem (by decide) h)
  | case3 done c rest _ ih =>
      refine ih (List.not_mem_cons_of_ne_of_not_mem ?_ h)
      split
      · decide
      · next hc => exact fun hr => hc (by rw [beq_iff_eq]; exact hr.symm)

/-- The text of a file holds no carriage return. -/
theorem decodeLenient_noReturn (bytes : List UInt8) :
    '\r' ∉ (decodeLenient bytes).toList := by
  unfold decodeLenient unifyNewlines
  rw [String.toList_ofList]
  exact noReturn_unifyNewlinesFrom (List.not_mem_nil) _

/-- A text without carriage returns, written to a file, is read back as it
was. -/
theorem decodeLenient_encode {s : String} (h : '\r' ∉ s.toList) :
    decodeLenient (encode s) = s := by
  unfold decodeLenient unifyNewlines
  rw [encode_eq_flatMap, decodeLenientFrom_encoded, List.reverse_nil,
    List.nil_append, unifyNewlinesFrom_noReturn h, List.reverse_nil,
    List.nil_append, String.ofList_toList]

/-- Strict reading leaves no carriage return either. -/
theorem decode_noReturn {bytes : List UInt8} {s : String}
    (h : decode bytes = .ok s) : '\r' ∉ s.toList := by
  unfold decode at h
  cases hchars : decodeFrom 0 [] 0 bytes with
  | error why =>
      rw [hchars] at h
      cases h
  | ok cs =>
      rw [hchars] at h
      obtain rfl := Except.ok.inj h
      unfold unifyNewlines
      rw [String.toList_ofList]
      exact noReturn_unifyNewlinesFrom List.not_mem_nil _

theorem decode_encode {s : String} (h : '\r' ∉ s.toList) :
    decode (encode s) = .ok s := by
  unfold decode unifyNewlines
  rw [encode_eq_flatMap, decodeFrom_encoded]
  show Except.ok (String.ofList (unifyNewlinesFrom [] s.toList)) = _
  rw [unifyNewlinesFrom_noReturn h, List.reverse_nil, List.nil_append,
    String.ofList_toList]

end SourceAudit.Text
