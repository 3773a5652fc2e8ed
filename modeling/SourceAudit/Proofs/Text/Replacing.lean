/-
What is left of a text when another is replaced in it.

Looking for a text from the left cuts the whole into pieces, none of which has
it (`not_infix_of_mem_splitByFrom`). Replacing keeps these pieces and puts the
image in the places between them (`replaceFrom_eq_intercalate`). So all that
could bring the replaced text back is a seam between a piece and an image, and
two texts that cannot share a seam exclude that whatever the pieces are
(`Seamless.not_infix_intercalate`).
-/
import SourceAudit.Proofs.Text.Places
import Mathlib.Data.List.Infix

namespace SourceAudit.Text

variable {needle image : List Char}

-- ============================================================== pieces

theorem splitByFrom_ne_nil (sep piece : List Char) (skip : Nat)
    (cs : List Char) : splitByFrom sep piece skip cs ≠ [] := by
  fun_induction splitByFrom sep piece skip cs <;> simp_all

/-- The pieces with the separator between them are the text. -/
theorem intercalate_splitByFrom {sep : List Char} (hsep : sep ≠ [])
    (piece : List Char) (skip : Nat) (cs : List Char) :
    sep.intercalate (splitByFrom sep piece skip cs) = piece.reverse ++
      cs.drop skip := by
  fun_induction splitByFrom sep piece skip cs with
  | case1 piece skip =>
      rw [List.intercalate_singleton, List.drop_nil, List.append_nil]
  | case2 piece skip c rest ih => rw [ih, List.drop_succ_cons]
  | case3 piece c rest hfound ih =>
      obtain ⟨tail, htail⟩ := List.isPrefixOf_iff_prefix.1 hfound
      obtain ⟨d, sep, rfl⟩ := List.exists_cons_of_ne_nil hsep
      obtain ⟨rfl, rfl⟩ := List.cons.inj htail
      rw [List.intercalate_cons_of_ne_nil (splitByFrom_ne_nil _ _ _ _), ih]
      simp
  | case4 piece c rest _ ih =>
      rw [ih, List.reverse_cons, List.append_assoc]; rfl

/-- Replacing puts the image between the pieces that the text has without the
replaced one. -/
theorem replaceFrom_eq_intercalate (needle image done piece : List Char)
    (skip : Nat) (cs : List Char) :
    replaceFrom needle image (piece ++ done) skip cs
      = done.reverse ++
        image.intercalate (splitByFrom needle piece skip cs) := by
  fun_induction splitByFrom needle piece skip cs generalizing done with
  | case1 piece skip =>
      rw [replaceFrom, List.reverse_append, List.intercalate_singleton]
  | case2 piece skip c rest ih => rw [replaceFrom, ih]
  | case3 piece c rest hfound ih =>
      have hnext := ih (image.reverse ++ (piece ++ done))
      rw [List.nil_append] at hnext
      rw [replaceFrom, if_pos hfound, hnext,
        List.intercalate_cons_of_ne_nil (splitByFrom_ne_nil _ _ _ _)]
      simp
  | case4 piece c rest hnone ih =>
      rw [replaceFrom, if_neg hnone, ← ih, List.cons_append]

/-- Replacing brings in no characters but those of the image. -/
theorem mem_of_mem_replaceFrom {done cs : List Char} {skip : Nat} {c : Char}
    (h : c ∈ replaceFrom needle image done skip cs) :
    c ∈ done ∨ c ∈ image ∨ c ∈ cs := by
  fun_induction replaceFrom needle image done skip cs <;> grind

/-- No occurrence of a text begins in a piece that something follows. -/
def Passed (needle piece rest : List Char) : Prop :=
  ∀ tail, tail <:+ piece → tail ≠ [] → ¬needle <+: tail ++ rest

/-- A piece in which no occurrence begins has none. -/
theorem Passed.absent {piece rest : List Char} (hneedle : needle ≠ [])
    (h : Passed needle piece rest) : ¬needle <:+: piece := by
  rintro ⟨lead, tail, rfl⟩
  refine h (needle ++ tail) ⟨lead, (List.append_assoc ..).symm⟩
    (by simp [hneedle]) ?_
  exact (List.prefix_append needle tail).trans (List.prefix_append _ rest)

/-- A character at which no occurrence begins joins the piece. -/
theorem Passed.step {piece rest : List Char} {c : Char}
    (h : Passed needle piece (c :: rest)) (hnone : ¬needle <+: c :: rest) :
    Passed needle (piece ++ [c]) rest := by
  intro tail htail hne
  rcases List.suffix_concat_iff.1 htail with rfl | ⟨tail, rfl, hended⟩
  · exact absurd rfl hne
  · rw [List.append_assoc]
    by_cases hempty : tail = []
    · rwa [hempty]
    · exact h tail hended hempty

/-- The pieces of a text do not have what they are cut at. -/
theorem not_infix_of_mem_splitByFrom {sep piece : List Char} (hsep : sep ≠ [])
    {skip : Nat} {cs : List Char}
    (h : Passed sep piece.reverse (cs.drop skip)) :
    ∀ p ∈ splitByFrom sep piece skip cs, ¬sep <:+: p := by
  fun_induction splitByFrom sep piece skip cs with
  | case1 piece skip => simpa using h.absent hsep
  | case2 piece skip c rest ih => exact ih h
  | case3 piece c rest _ ih =>
      refine List.forall_mem_cons.2 ⟨h.absent hsep, ih fun tail htail hne => ?_⟩
      exact absurd (List.suffix_nil.1 htail) hne
  | case4 piece c rest hnone ih =>
      refine ih ?_
      rw [List.reverse_cons]
      exact h.step fun hbegins => hnone (List.isPrefixOf_iff_prefix.2 hbegins)

-- =============================================================== seams

/-- Two texts that share no seam: neither has the other, no end of the first
begins the second and no start of the first ends it. -/
@[mk_iff] structure Seamless (needle image : List Char) : Prop where
  ends : ∀ tail ∈ needle.tails, tail ≠ [] → ¬tail <+: image
  starts : ∀ lead ∈ needle.inits, lead ≠ [] → ¬lead <:+ image
  outside : ¬needle <:+: image
  inside : ¬image <:+: needle

instance (needle image : List Char) : Decidable (Seamless needle image) :=
  decidable_of_iff' _ (seamless_iff needle image)

theorem Seamless.ne_nil (h : Seamless needle image) : needle ≠ [] :=
    fun hempty =>
  h.outside (hempty ▸ List.nil_infix)

/-- An occurrence behind a piece without one does not begin in the piece. -/
theorem Seamless.infix_of_append (h : Seamless needle image)
    {piece rest : List Char} (hpiece : ¬needle <:+: piece)
    (hoccurs : needle <:+: piece ++ (image ++ rest)) :
    needle <:+: image ++ rest := by
  rcases List.infix_append_iff.1 hoccurs with hin | hin | ⟨lead, tail, rfl,
    hlead, htail⟩
  · exact absurd hin hpiece
  · exact hin
  · by_cases hempty : tail = []
    · subst hempty
      exact absurd hlead.isInfix (by simpa using hpiece)
    · have himage : image <+: image ++ rest := List.prefix_append image rest
      rcases List.prefix_or_prefix_of_prefix htail himage with hshort | hlong
      · exact absurd hshort
          (h.ends tail ((List.mem_tails _ _).2 (List.suffix_append ..)) hempty)
      · exact absurd
          (hlong.isInfix.trans (List.suffix_append lead tail).isInfix) h.inside

/-- An occurrence in an image and what follows it does not begin in the
image. -/
theorem Seamless.infix_of_image (h : Seamless needle image) {rest : List Char}
    (hoccurs : needle <:+: image ++ rest) : needle <:+: rest := by
  rcases List.infix_append_iff.1 hoccurs with hin | hin | ⟨lead, tail, rfl,
    hlead, htail⟩
  · exact absurd hin h.outside
  · exact hin
  · by_cases hempty : lead = []
    · subst hempty
      exact htail.isInfix
    · exact absurd hlead
        (h.starts lead ((List.mem_inits _ _).2 (List.prefix_append ..)) hempty)

/-- Images between pieces do not bring back what none of the pieces has. -/
theorem Seamless.not_infix_intercalate (h : Seamless needle image)
    {pieces : List (List Char)} (hpieces : ∀ p ∈ pieces, ¬needle <:+: p) :
    ¬needle <:+: image.intercalate pieces := by
  induction pieces with
  | nil => exact fun hoccurs => h.ne_nil (List.infix_nil.1 hoccurs)
  | cons p rest ih =>
      obtain ⟨hp, hrest⟩ := List.forall_mem_cons.1 hpieces
      by_cases hlast : rest = []
      · rwa [hlast, List.intercalate_singleton]
      · rw [List.intercalate_cons_of_ne_nil hlast, List.append_assoc]
        exact fun hoccurs =>
          ih hrest (h.infix_of_image (h.infix_of_append hp hoccurs))

-- =============================================================== texts

theorem contains_eq_false_iff {needle s : String} :
    contains needle s = false ↔ ¬needle.toList <:+: s.toList := by
  rw [← Bool.not_eq_true, contains, occursIn_iff]

/-- A text is its pieces with the separator between them. -/
theorem intercalate_splitBy {sep : String} (hsep : sep.toList ≠ [])
    (s : String) : sep.intercalate (splitBy sep s) = s := by
  rw [← String.toList_inj, String.toList_intercalate, splitBy, List.map_map]
  simpa [Function.comp_def] using intercalate_splitByFrom hsep [] 0 s.toList

theorem replace_eq_intercalate (needle image s : String) :
    replace needle image s = image.intercalate (splitBy needle s) := by
  rw [← String.toList_inj, String.toList_intercalate, splitBy, replace,
    List.map_map]
  simpa [Function.comp_def] using
    replaceFrom_eq_intercalate needle.toList image.toList [] [] 0 s.toList

/-- The pieces of a text do not have the separator. -/
theorem not_contains_of_mem_splitBy {sep s p : String} (hsep : sep.toList ≠ [])
    (hp : p ∈ splitBy sep s) : contains sep p = false := by
  obtain ⟨piece, hpiece, rfl⟩ := List.mem_map.1 hp
  rw [contains_eq_false_iff, String.toList_ofList]
  refine not_infix_of_mem_splitByFrom hsep (fun tail htail hne =>
    ?_) piece hpiece
  exact absurd (List.suffix_nil.1 htail) hne

/-- What has been replaced by a text it shares no seam with is nowhere left. -/
theorem not_contains_replace {needle image : String}
    (h : Seamless needle.toList image.toList) (s : String) :
    contains needle (replace needle image s) = false := by
  rw [contains_eq_false_iff, replace_eq_intercalate, String.toList_intercalate]
  refine h.not_infix_intercalate fun p hp => ?_
  obtain ⟨piece, hpiece, rfl⟩ := List.mem_map.1 hp
  exact contains_eq_false_iff.1 (not_contains_of_mem_splitBy h.ne_nil hpiece)

/-- Nothing is replaced where there is nothing to replace. -/
theorem replaceFrom_of_absent {done cs : List Char} (h : ¬needle <:+: cs) :
    replaceFrom needle image done 0 cs = done.reverse ++ cs := by
  induction cs generalizing done with
  | nil => rw [replaceFrom, List.append_nil]
  | cons c rest ih =>
      rw [List.infix_cons_iff, not_or] at h
      rw [replaceFrom,
        if_neg (fun hfound => h.1 (List.isPrefixOf_iff_prefix.1 hfound)),
        ih h.2, List.reverse_cons, List.append_assoc]
      rfl

theorem replace_of_not_contains {needle s : String}
    (h : contains needle s = false) (image : String) :
    replace needle image s = s := by
  rw [replace, replaceFrom_of_absent (contains_eq_false_iff.1 h),
    List.reverse_nil, List.nil_append, String.ofList_toList]

end SourceAudit.Text
