/-
Patterns made of words.

A word is written as one character after another, and read as a text that agrees
with it character by character (`reads_word`). Patterns put words together in
two ways: one of several (`anyWord`), or one after another with gaps that stay
on a line (`inTurn`). What the first reads is any of its words
(`reads_anyWord`). What the second reads is any text without a line feed in
which its words occur in order and apart from one another (`reads_inTurn`),
although there are many ways of cutting such a text into words and gaps.

A pattern may also be a row of expressions that is tied to the start of a text;
it occurs in the texts that begin with what the row reads
(`anchored_occursIn_iff`).
-/
import SourceAudit.Proofs.Pattern.Matching
import Mathlib.Data.List.Forall2

namespace SourceAudit

deriving instance DecidableEq for Pattern.Expr
deriving instance DecidableEq for Pattern

namespace Pattern

variable {ignoreCase : Bool}

-- =========================================================== sequences

/-- What a row of expressions reads is cut into what each of them reads. -/
theorem reads_foldl_seq {e : Expr} {es : List Expr} {cs : List Char} :
    (es.foldl .seq e).Reads ignoreCase cs ↔
      ∃ first parts, cs = first ++ List.flatten parts ∧
      e.Reads ignoreCase first ∧
        List.Forall₂ (Expr.Reads ignoreCase) es parts := by
  induction es generalizing e with
  | nil =>
      simp only [List.foldl_nil, List.forall₂_nil_left_iff]
      constructor
      · exact fun h => ⟨cs, [], (List.append_nil cs).symm, h, rfl⟩
      · rintro ⟨first, _, hcs, h, rfl⟩
        rwa [hcs, List.flatten_nil, List.append_nil]
  | cons e' es ih =>
      rw [List.foldl_cons, ih]
      constructor
      · rintro ⟨_, parts, rfl, ⟨first, second, rfl, hfirst, hsecond⟩, hparts⟩
        refine ⟨first, second :: parts, ?_, hfirst, .cons hsecond hparts⟩
        rw [List.flatten_cons, List.append_assoc]
      · rintro ⟨first, _, rfl, hfirst, hall⟩
        obtain ⟨second, parts, hsecond, hparts, rfl⟩ :=
          List.forall₂_cons_left_iff.1 hall
        refine ⟨first ++ second, parts, ?_,
          ⟨first, second, rfl, hfirst, hsecond⟩, hparts⟩
        rw [List.flatten_cons, List.append_assoc]

theorem isPlain_foldl_seq {e : Expr} {es : List Expr} (he : e.isPlain = true)
    (hes : ∀ e' ∈ es, e'.isPlain = true) :
    (es.foldl .seq e).isPlain = true := by
  induction es generalizing e with
  | nil => exact he
  | cons e' es ih =>
      obtain ⟨he', hes⟩ := List.forall_mem_cons.1 hes
      exact ih (Bool.and_eq_true_iff.2 ⟨he, he'⟩) hes

-- =============================================================== words

/-- Whether a character is read for another one. -/
def agrees (ignoreCase : Bool) (written read : Char) : Bool :=
  SetItem.holds ignoreCase read (.char written)

/-- The expression of a character. -/
def letter (c : Char) : Expr :=
  .set false [.char c]

/-- The expression of a word. -/
def word : List Char → Expr
  | [] => .empty
  | c :: cs => (cs.map letter).foldl .seq (letter c)

theorem flatten_letters (cs : List Char) : (cs.map fun c => [c]).flatten
    = cs := by
  rw [← List.flatMap_def, List.flatMap_singleton']

/-- Repetitions of what reads one character read texts of such characters that
are long enough. -/
theorem reads_repeated_chars {e : Expr} {test : Char → Bool}
    (he : ∀ cs, e.Reads ignoreCase cs ↔ ∃ c, cs = [c] ∧ test c = true)
    {least : Nat} {cs : List Char} :
    (Expr.repeated e least none).Reads ignoreCase cs ↔
      least ≤ cs.length ∧ ∀ c ∈ cs, test c = true := by
  constructor
  · rintro ⟨parts, rfl, henough, -, hparts⟩
    have hread (part : List Char) (hpart : part ∈ parts) : ∃ c, part = [c] ∧
        test c = true :=
      (he part).1 (hparts part hpart)
    constructor
    · have hone : parts.map List.length = parts.map fun _ => 1 :=
        List.map_congr_left fun part hpart => by
          obtain ⟨c, rfl, -⟩ := hread part hpart
          rfl
      rw [List.length_flatten, hone]
      simpa using henough
    · intro c hc
      obtain ⟨part, hpart, hmem⟩ := List.mem_flatten.1 hc
      obtain ⟨d, rfl, hd⟩ := hread part hpart
      rwa [List.mem_singleton.1 hmem]
  · rintro ⟨hlength, htest⟩
    refine ⟨cs.map fun c => [c], (flatten_letters cs).symm, ?_, fun m hm =>
      absurd hm (by simp), ?_⟩
    · rwa [List.length_map, Nat.zero_add]
    · intro part hpart
      obtain ⟨c, hc, rfl⟩ := List.mem_map.1 hpart
      exact (he [c]).2 ⟨c, rfl, htest c hc⟩

theorem reads_letter {c : Char} {cs : List Char} :
    (letter c).Reads ignoreCase cs ↔ ∃ d, cs = [d] ∧
      agrees ignoreCase c d = true := by
  simp [letter, Expr.Reads, agrees]

theorem reads_letters {w : List Char} {parts : List (List Char)} :
    List.Forall₂ (Expr.Reads ignoreCase) (w.map letter) parts ↔
      ∃ cs, parts = cs.map (fun c => [c]) ∧
        List.Forall₂ (fun c d => agrees ignoreCase c d = true) w cs := by
  induction w generalizing parts with
  | nil => simp
  | cons c w ih =>
      rw [List.map_cons, List.forall₂_cons_left_iff]
      constructor
      · rintro ⟨_, rest, hc, hw, rfl⟩
        obtain ⟨d, rfl, hd⟩ := reads_letter.1 hc
        obtain ⟨cs, rfl, hcs⟩ := ih.1 hw
        exact ⟨d :: cs, rfl, .cons hd hcs⟩
      · rintro ⟨_, rfl, hall⟩
        obtain ⟨d, cs, hd, hcs, rfl⟩ := List.forall₂_cons_left_iff.1 hall
        exact ⟨[d], cs.map fun c => [c], reads_letter.2 ⟨d, rfl, hd⟩,
          ih.2 ⟨cs, rfl, hcs⟩, rfl⟩

/-- A word is read where each of its characters is. -/
theorem reads_word {w cs : List Char} :
    (word w).Reads ignoreCase cs ↔
      List.Forall₂ (fun c d => agrees ignoreCase c d = true) w cs := by
  cases w with
  | nil => simp [word, Expr.Reads]
  | cons c w =>
      rw [word, reads_foldl_seq, List.forall₂_cons_left_iff]
      constructor
      · rintro ⟨_, _, rfl, hc, hw⟩
        obtain ⟨d, rfl, hd⟩ := reads_letter.1 hc
        obtain ⟨ds, rfl, hds⟩ := reads_letters.1 hw
        exact ⟨d, ds, hd, hds, by rw [flatten_letters, List.singleton_append]⟩
      · rintro ⟨d, ds, hd, hds, rfl⟩
        refine ⟨[d], ds.map fun c => [c], ?_, reads_letter.2 ⟨d, rfl, hd⟩,
          reads_letters.2 ⟨ds, rfl, hds⟩⟩
        rw [flatten_letters, List.singleton_append]

theorem isPlain_letters {e : Expr} {w : List Char} (h : e ∈ w.map letter) :
    e.isPlain = true := by
  obtain ⟨c, -, rfl⟩ := List.mem_map.1 h
  rfl

theorem isPlain_word (w : List Char) : (word w).isPlain = true := by
  cases w with
  | nil => rfl
  | cons c w => exact isPlain_foldl_seq rfl fun _ => isPlain_letters

-- ======================================================== alternatives

/-- The expression of one of several words. -/
def anyWord : List (List Char) → Expr
  | [] => .set false []
  | [w] => word w
  | w :: ws => .alt (word w) (anyWord ws)

theorem reads_anyWord {words : List (List Char)} {cs : List Char} :
    (anyWord words).Reads ignoreCase cs ↔
      ∃ w ∈ words,
        List.Forall₂ (fun c d => agrees ignoreCase c d = true) w cs := by
  fun_induction anyWord words with
  | case1 => simp [Expr.Reads]
  | case2 w => simp [reads_word]
  | case3 w ws _ ih => rw [Expr.Reads, reads_word, ih, List.exists_mem_cons_iff]

theorem isPlain_anyWord (words : List (List Char)) :
    (anyWord words).isPlain = true := by
  fun_induction anyWord words with
  | case1 => rfl
  | case2 w => exact isPlain_word w
  | case3 w ws _ ih => exact Bool.and_eq_true_iff.2 ⟨isPlain_word w, ih⟩

-- =============================================================== turns

/-- Words occur in a text one after another, none of them before the end of the
last. -/
def InTurn : List (List Char) → List Char → Prop
  | [], _ => True
  | w :: ws, cs => ∃ before after, cs = before ++ w ++ after ∧ InTurn ws after

/-- The expression of anything on one line. -/
def gap : Expr :=
  .repeated .any 0 none

/-- The expressions of a word and the gap after it. -/
def turn (w : List Char) : List Expr :=
  w.map letter ++ [gap]

/-- The expression of words one after another, with gaps around them. -/
def inTurn (words : List (List Char)) : Expr :=
  (words.flatMap turn).foldl .seq gap

theorem reads_gap {cs : List Char} : gap.Reads ignoreCase cs ↔ '\n' ∉ cs := by
  rw [gap, reads_repeated_chars fun _ => Iff.rfl]
  simp only [Nat.zero_le, true_and, bne_iff_ne]
  exact ⟨fun h hmem => h _ hmem rfl, fun h c hc => ne_of_mem_of_not_mem hc h⟩

theorem agrees_false {c d : Char} : agrees false c d = true ↔ c = d := by
  simp [agrees, SetItem.holds]

/-- A word after something else is read as it is written, if case counts. -/
theorem reads_foldl_letters {e : Expr} {w cs : List Char} :
    ((w.map letter).foldl .seq e).Reads false cs ↔ ∃ a, cs = a ++ w ∧
      e.Reads false a := by
  rw [reads_foldl_seq]
  constructor
  · rintro ⟨a, _, rfl, ha, hw⟩
    obtain ⟨ds, rfl, hds⟩ := reads_letters.1 hw
    simp only [agrees_false, List.forall₂_eq_eq_eq] at hds
    subst hds
    exact ⟨a, by rw [flatten_letters], ha⟩
  · rintro ⟨a, rfl, ha⟩
    refine ⟨a, w.map fun c => [c], ?_, ha, reads_letters.2 ⟨w, rfl, ?_⟩⟩
    · rw [flatten_letters]
    · simp [agrees_false]

/-- Words after something else and a gap. What comes before is left open: each
word joins it with the gap before the word. -/
theorem reads_turns {words : List (List Char)} (hwords : ∀ w ∈ words, '\n' ∉ w)
    {e : Expr} {cs : List Char} :
    ((words.flatMap turn).foldl Expr.seq (.seq e gap)).Reads false cs ↔
      ∃ a b, cs = a ++ b ∧ e.Reads false a ∧ '\n' ∉ b ∧ InTurn words b := by
  induction words generalizing e cs with
  | nil =>
      simp only [List.flatMap_nil, List.foldl_nil, Expr.Reads, reads_gap,
        InTurn, and_true]
  | cons w words ih =>
      obtain ⟨hw, hwords⟩ := List.forall_mem_cons.1 hwords
      rw [List.flatMap_cons, turn, List.append_assoc, List.foldl_append,
        List.singleton_append, List.foldl_cons, ih hwords]
      simp only [reads_foldl_letters, Expr.Reads, reads_gap]
      constructor
      · rintro ⟨_, after, rfl, ⟨_, rfl, a, before, rfl, ha, hbefore⟩,
          hafter, hturn⟩
        refine ⟨a, before ++ w ++ after, by simp,
          ha, by simp [hbefore, hw, hafter], ?_⟩
        exact ⟨before, after, rfl, hturn⟩
      · rintro ⟨a, _, rfl, ha, hline, before, after, rfl, hturn⟩
        obtain ⟨⟨hbefore, -⟩, hafter⟩ : ('\n' ∉ before ∧ '\n' ∉ w) ∧
            '\n' ∉ after := by
          simpa only [List.mem_append, not_or] using hline
        exact ⟨a ++ before ++ w, after, by simp,
          ⟨a ++ before, rfl, a, before, rfl, ha, hbefore⟩, hafter, hturn⟩

/-- Words with gaps around them are read as any text without a line feed in
which they occur in turn. -/
theorem reads_inTurn {words : List (List Char)} (hwords : ∀ w ∈ words, '\n' ∉ w)
    {cs : List Char} :
    (inTurn words).Reads false cs ↔ '\n' ∉ cs ∧ InTurn words cs := by
  cases words with
  | nil =>
      simp only [inTurn, List.flatMap_nil, List.foldl_nil, reads_gap,
        InTurn, and_true]
  | cons w words =>
      obtain ⟨hw, hwords⟩ := List.forall_mem_cons.1 hwords
      rw [inTurn, List.flatMap_cons, turn, List.append_assoc, List.foldl_append,
        List.singleton_append, List.foldl_cons, reads_turns hwords]
      simp only [reads_foldl_letters, reads_gap]
      constructor
      · rintro ⟨_, after, rfl, ⟨before, rfl, hbefore⟩, hafter, hturn⟩
        exact ⟨by simp [hbefore, hw, hafter], before, after, rfl, hturn⟩
      · rintro ⟨hline, before, after, rfl, hturn⟩
        obtain ⟨⟨hbefore, -⟩, hafter⟩ : ('\n' ∉ before ∧ '\n' ∉ w) ∧
            '\n' ∉ after := by
          simpa only [List.mem_append, not_or] using hline
        exact ⟨before ++ w, after, rfl, ⟨before, rfl, hbefore⟩, hafter, hturn⟩

theorem isPlain_inTurn (words : List (List Char)) :
    (inTurn words).isPlain = true := by
  refine isPlain_foldl_seq rfl fun e he => ?_
  obtain ⟨w, -, he⟩ := List.mem_flatMap.1 he
  rcases List.mem_append.1 he with he | he
  · exact isPlain_letters he
  · obtain rfl := List.mem_singleton.1 he
    rfl

-- ============================================================= anchors

/-- A row of expressions leads on only if its first one does; what the first one
asks for besides is asked for at the start. -/
theorem leads_foldl_seq {e e' : Expr} {s : Spot} {asked : Prop}
    (h : ∀ t, e.Leads ignoreCase s t ↔ asked ∧ e'.Leads ignoreCase s t)
    (es : List Expr) (t : Spot) :
    (es.foldl .seq e).Leads ignoreCase s t ↔
      asked ∧ (es.foldl .seq e').Leads ignoreCase s t := by
  induction es generalizing e e' with
  | nil => exact h t
  | cons x es ih =>
      refine ih fun u => ?_
      simp only [Expr.Leads, h, and_assoc, exists_and_left]

/-- A row that is tied to the start of a text occurs in it just if it reads how
the text begins. -/
theorem anchored_occursIn_iff {es : List Expr}
    (hes : ∀ e ∈ es, e.isPlain = true) (text : String) :
    (Pattern.mk ignoreCase (es.foldl .seq .start)).occursIn text = true ↔
      ∃ part, (es.foldl Expr.seq .empty).Reads ignoreCase part ∧
      part <+: text.toList := by
  have hanchor (s t : Spot) : (es.foldl Expr.seq .start).Leads ignoreCase s t ↔
      s.before.isNone = true ∧
        (es.foldl Expr.seq .empty).Leads ignoreCase s t :=
    leads_foldl_seq (fun t => by simp only [Expr.Leads, and_comm]) es t
  rw [occursIn_iff]
  simp only [hanchor]
  constructor
  · rintro ⟨before, rest, htext, t, hstart, hleads⟩
    obtain rfl : before = [] := by simpa [Spot.between] using hstart
    obtain ⟨part, hpart, hrest⟩ := hleads.reads
    exact ⟨part, hpart, t.rest, (htext.trans hrest).symm⟩
  · rintro ⟨part, hpart, rest, htext⟩
    obtain ⟨t, ht, -⟩ := exists_leads_of_reads (isPlain_foldl_seq rfl hes) hpart
      (s := .between [] (part ++ rest)) rfl rfl
    exact ⟨[], _, htext.symm, t, rfl, ht⟩

end Pattern

end SourceAudit
