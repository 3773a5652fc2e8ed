/-
Data that is loaded and never checked is reported once.

Whether a file loads data is asked of its whole text, and where it does is
looked up line by line. The two agree because no word for loading data has a
character that agrees with a line break (`unbroken_loadingWords`): wherever such
a word stands in a text, it stands in one of the lines
(`exists_line_of_mentions`). So the look-up ends at the first line with such a
word and never comes back without one (`firstLoading?_eq_some`).
-/
import SourceAudit.Proofs.Pattern.Words
import SourceAudit.Proofs.Rule.Reporting
import SourceAudit.Proofs.Text.Lines
import SourceAudit.Rule.Learning

namespace SourceAudit

namespace Text

/-- The characters at which a text breaks into lines. -/
def lineBreaks : List Char :=
  [0x0A, 0x0B, 0x0C, 0x0D, 0x1C, 0x1D, 0x1E, 0x85, 0x2028,
    0x2029].map Char.ofNat

theorem mem_lineBreaks {c : Char} (h : isLineBreak c = true) :
    c ∈ lineBreaks := by
  have hcode : c.toNat ∈ [0x0A, 0x0B, 0x0C, 0x0D, 0x1C, 0x1D, 0x1E, 0x85,
      0x2028, 0x2029] := by
    simp only [isLineBreak, Bool.or_eq_true, Bool.and_eq_true,
      decide_eq_true_eq, beq_iff_eq] at h
    simp only [List.mem_cons, List.not_mem_nil, or_false]
    omega
  have hmem := List.mem_map_of_mem (f := Char.ofNat) hcode
  rwa [Char.ofNat_toNat] at hmem

/-- A break has no other case. -/
theorem foldChar_lineBreak {c : Char} (h : isLineBreak c = true) :
    foldChar c = c := by
  -- said with `all`, which goes along the list whatever is known about the type
  -- of characters
  have hall : (lineBreaks.all fun c => foldChar c == c) = true := by
    decide +kernel
  exact beq_iff_eq.1 (List.all_eq_true.1 hall c (mem_lineBreaks h))

/-- A character agrees with no break unless it is one in small letters. -/
theorem isLineBreak_of_agrees {c d : Char} (h : agreesIgnoringCase c d = true)
    (hc : isLineBreak (foldChar c) = false) : isLineBreak d = false := by
  refine Bool.eq_false_iff.2 fun hd => ?_
  rw [agreesIgnoringCase, foldChar_lineBreak hd] at h
  have hall : (lineBreaks.all fun d =>
      decide (d.toNat ≠ 0x131 ∧ d ≠ 'i' ∧ d.toNat ≠ 0x17F ∧ d ≠ 's'))
        = true := by
    decide
  obtain ⟨hdotless, hi, hlong, hs⟩ :=
    of_decide_eq_true (List.all_eq_true.1 hall d (mem_lineBreaks hd))
  have hsame : foldChar c = d := by
    simpa [hdotless, hi, hlong, hs] using h
  exact Bool.false_ne_true (hc.symm.trans (hsame ▸ hd))

end Text

namespace Rule

-- =============================================================== words

/-- One of several words occurs in a text, whatever the case of its letters. -/
def Mentions (words : List String) (text : String) : Prop :=
  ∃ w ∈ words, ∃ part, part <:+: text.toList ∧
    List.Forall₂ (fun c d => Text.agreesIgnoringCase c d = true) w.toList part

/-- The words for loading data. -/
def loadingWords : List String :=
  ["pd.read_", "np.load", "torch.load", "tf.data"]

/-- The words for checking data. -/
def checkingWords : List String :=
  ["assert", "validate", "check", "verify", "isna", "isnull"]

/-- The pattern of one of several words, case being ignored. -/
def mentionPattern (words : List String) : Pattern :=
  ⟨true, .group 1 (Pattern.anyWord (words.map String.toList))⟩

theorem mentionPattern_occursIn_iff (words : List String) (text : String) :
    (mentionPattern words).occursIn text = true ↔ Mentions words text := by
  rw [Pattern.occursIn_iff_reads (Pattern.isPlain_anyWord _)]
  constructor
  · rintro ⟨part, hreads, hpart⟩
    obtain ⟨_, hmem, hagree⟩ := Pattern.reads_anyWord.1 hreads
    obtain ⟨w, hw, rfl⟩ := List.mem_map.1 hmem
    exact ⟨w, hw, part, hpart, hagree⟩
  · rintro ⟨w, hw, part, hpart, hagree⟩
    exact ⟨part, Pattern.reads_anyWord.2 ⟨w.toList, List.mem_map_of_mem hw,
      hagree⟩, hpart⟩

theorem loadingPattern_occursIn_iff (text : String) :
    loadingPattern.occursIn text = true ↔ Mentions loadingWords text := by
  have hpattern : loadingPattern = mentionPattern loadingWords := by
    decide +kernel
  rw [hpattern, mentionPattern_occursIn_iff]

theorem checkingPattern_occursIn_iff (text : String) :
    checkingPattern.occursIn text = true ↔ Mentions checkingWords text := by
  have hpattern : checkingPattern = mentionPattern checkingWords := by
    decide +kernel
  rw [hpattern, mentionPattern_occursIn_iff]

/-- No word for loading data is empty or agrees with a break anywhere. -/
theorem unbroken_loadingWords : ∀ w ∈ loadingWords,
    w.toList ≠ [] ∧ ∀ c ∈ w.toList,
      Text.isLineBreak (Text.foldChar c) = false := by
  have hall : ∀ w ∈ loadingWords, w.toList ≠ [] ∧
      (w.toList.all fun c => !Text.isLineBreak (Text.foldChar c)) = true := by
    decide +kernel
  intro w hw
  obtain ⟨hne, hunbroken⟩ := hall w hw
  refine ⟨hne, fun c hc => ?_⟩
  simpa using List.all_eq_true.1 hunbroken c hc

/-- What agrees with a word without breaks has none either. -/
theorem unbroken_of_agrees {w part : List Char}
    (h : List.Forall₂ (fun c d => Text.agreesIgnoringCase c d = true) w part)
    (hw : ∀ c ∈ w, Text.isLineBreak (Text.foldChar c) = false) :
    ∀ d ∈ part, Text.isLineBreak d = false := by
  induction h with
  | nil => exact fun _ hd => absurd hd List.not_mem_nil
  | cons hagree _ ih =>
      obtain ⟨hc, hw⟩ := List.forall_mem_cons.1 hw
      exact List.forall_mem_cons.2 ⟨Text.isLineBreak_of_agrees hagree hc, ih hw⟩

/-- A text that mentions loading data does so on one of its lines. -/
theorem exists_line_of_mentions {text : String}
    (h : Mentions loadingWords text) :
    ∃ line ∈ Text.splitLines text, Mentions loadingWords line := by
  obtain ⟨w, hw, part, hpart, hagree⟩ := h
  obtain ⟨hne, hunbroken⟩ := unbroken_loadingWords w hw
  have hpartNe : part ≠ [] := by
    rintro rfl
    exact hne (List.forall₂_nil_right_iff.1 hagree)
  have hstart : part <:+: List.reverse [] ++ text.toList := hpart
  obtain ⟨line, hline, hinfix⟩ :=
    Text.exists_line_of_infix hpartNe
      (unbroken_of_agrees hagree hunbroken) hstart
  refine ⟨String.ofList line, List.mem_map_of_mem hline, w, hw, part,
    ?_, hagree⟩
  rwa [String.toList_ofList]

-- ============================================================= look-up

/-- Where some line loads data, the look-up ends at the first such line. -/
theorem firstLoading?_eq_some {lines : List String}
    (h : ∃ line ∈ lines, Mentions loadingWords line) (number : Nat) :
    ∃ before line after, lines = before ++ line :: after ∧
      (∀ l ∈ before, ¬Mentions loadingWords l) ∧ Mentions loadingWords line ∧
      firstLoading? number lines
        = some ⟨number + before.length, Text.trim line, uncheckedNote⟩ := by
  induction lines generalizing number with
  | nil =>
      obtain ⟨line, hline, -⟩ := h
      exact absurd hline List.not_mem_nil
  | cons first rest ih =>
      rw [firstLoading?]
      by_cases hfirst : loadingPattern.occursIn first = true
      · rw [if_pos hfirst]
        exact ⟨[], first, rest, rfl, fun _ hl => absurd hl List.not_mem_nil,
          (loadingPattern_occursIn_iff first).1 hfirst, rfl⟩
      · rw [if_neg hfirst]
        rw [loadingPattern_occursIn_iff] at hfirst
        obtain ⟨line, hline, hmentions⟩ := h
        have hrest : line ∈ rest :=
          (List.mem_cons.1 hline).resolve_left fun hsame =>
          hfirst (hsame ▸ hmentions)
        obtain ⟨before, line, after, rfl, hbefore, hline, hfound⟩ :=
          ih ⟨line, hrest, hmentions⟩ (number + 1)
        refine ⟨first :: before, line, after, rfl, ?_, hline, ?_⟩
        · exact List.forall_mem_cons.2 ⟨hfirst, hbefore⟩
        · rw [hfound, List.length_cons, Nat.add_assoc, Nat.add_comm 1]

/-- A file is reported once if it mentions loading data and nothing that checks
it, and else not at all. What is reported then is the first of its lines that
mentions loading data, which there always is. -/
theorem unchecked_loading_reported_once (path : String) (source : Source) :
    (Mentions loadingWords source.text ∧ ¬Mentions checkingWords source.text ∧
      ∃ before line after, Text.splitLines source.text = before ++
        line :: after ∧ (∀ l ∈ before, ¬Mentions loadingWords l) ∧
        Mentions loadingWords line ∧
        dataValidation.check true path (some source)
          = [dataValidation.finding path ⟨before.length + 1, Text.trim line,
            uncheckedNote⟩]) ∨
    (¬(Mentions loadingWords source.text ∧
      ¬Mentions checkingWords source.text) ∧
      dataValidation.check true path (some source) = []) := by
  have hremarks : dataValidation.inspection.remarks source
      = if loadingPattern.occursIn source.text &&
        !checkingPattern.occursIn source.text then
          (firstLoading? 1 (Text.splitLines source.text)).toList
        else [] := rfl
  have hasked : (loadingPattern.occursIn source.text &&
      !checkingPattern.occursIn source.text) = true ↔
      Mentions loadingWords source.text ∧
        ¬Mentions checkingWords source.text := by
    rw [Bool.and_eq_true, Bool.not_eq_true', ← Bool.not_eq_true,
      loadingPattern_occursIn_iff, checkingPattern_occursIn_iff]
  rw [check_eq_map, hremarks]
  by_cases h : Mentions loadingWords source.text ∧
    ¬Mentions checkingWords source.text
  · obtain ⟨before, line, after, hlines, hbefore, hline, hfound⟩ :=
      firstLoading?_eq_some (exists_line_of_mentions h.1) 1
    refine .inl ⟨h.1, h.2, before, line, after, hlines, hbefore, hline, ?_⟩
    rw [if_pos (hasked.2 h), hfound, Nat.add_comm]
    rfl
  · refine .inr ⟨h, ?_⟩
    rw [if_neg (mt hasked.1 h)]
    rfl

-- a line separator ends a line as a line feed does
example : (dataValidation.check true "a.py"
    (some ⟨Text.encode "import pandas\u2028 PD.Read_csv(p)\n"⟩)).map
      (fun f => (f.line.asInt?, f.snippet.asText?))
        = [(some 2, some "PD.Read_csv(p)")] := by
  decide +kernel

end Rule

end SourceAudit
