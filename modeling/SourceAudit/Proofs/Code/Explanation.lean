/-
Where a syntax tree shows that a model is explained.

The signs are an import of a required package, an import from one, and a call of
a method that explains. They are looked for from the top of the tree down, and
the search ends at every call: it looks at the method that is called, not at
what it is called on or with. So it comes to what stands outside of all calls,
and there it misses nothing (`search_eq_true_iff`, `reached_explanation_iff`). A
sign inside a call, which is where `print(model.explain(x))` has its only one,
is not seen.
-/
import SourceAudit.Code.Evidence
import SourceAudit.Proofs.Text.Places

namespace SourceAudit.Code

namespace Tree

-- =========================================================== the parts

/-- The trees right below a tree. -/
def parts : Tree → List Tree
  | .name _ => []
  | .attribute value _ => [value]
  | .call callee arguments => callee :: arguments
  | .keyword _ value => [value]
  | .imports _ => []
  | .importFrom _ => []
  | .node _ parts => parts

theorem sizeOf_lt_of_mem_parts {p : Tree} : ∀ {t : Tree}, p ∈ t.parts →
    sizeOf p < sizeOf t
  | .attribute value member, h => by
      obtain rfl := List.mem_singleton.1 h
      simp only [attribute.sizeOf_spec]
      omega
  | .call callee arguments, h => by
      simp only [call.sizeOf_spec]
      rcases List.mem_cons.1 h with rfl | hargument
      · omega
      · have := List.sizeOf_lt_of_mem hargument
        omega
  | .keyword given value, h => by
      obtain rfl := List.mem_singleton.1 h
      simp only [keyword.sizeOf_spec]
      omega
  | .node kind below, h => by
      have : sizeOf p < sizeOf below := List.sizeOf_lt_of_mem h
      simp only [node.sizeOf_spec]
      omega

/-- What holds of a tree whenever it holds of its parts holds of every tree. -/
theorem parts_induction {motive : Tree → Prop}
    (step : ∀ t, (∀ p ∈ t.parts, motive p) → motive t) (t : Tree) : motive t :=
  step t fun p _ => parts_induction step p
termination_by sizeOf t
decreasing_by exact sizeOf_lt_of_mem_parts ‹_›

/-- A tree is part of another at any depth, the tree itself included. -/
inductive Within (s : Tree) : Tree → Prop where
  | here : Within s s
  | deeper {t p : Tree} (hp : p ∈ t.parts) (h : Within s p) : Within s t

-- ========================================================== the search

/-- A search from `t` comes to `s`: nothing above `s` makes it stop. -/
inductive Reached (stop : Tree → Option Bool) (s : Tree) : Tree → Prop where
  | here : Reached stop s s
  | deeper {t p : Tree} (hstop : stop t = none) (hp : p ∈ t.parts)
      (h : Reached stop s p) :
      Reached stop s t

theorem searchAny_eq_any (stop : Tree → Option Bool) (ts : List Tree) :
    searchAny stop ts = ts.any (search stop) := by
  induction ts with
  | nil => rfl
  | cons t rest ih => rw [searchAny, ih, List.any_cons]

/-- One step of a search: it stops, or goes on to the parts. -/
theorem search_eq (stop : Tree → Option Bool) (t : Tree) :
    search stop t = (stop t).getD (t.parts.any (search stop)) := by
  rw [search.eq_def]
  cases stop t with
  | some answer => rfl
  | none => cases t <;> simp [parts, searchAny_eq_any]

/-- A search finds what it comes to. -/
theorem search_eq_true_iff (stop : Tree → Option Bool) (t : Tree) :
    search stop t = true ↔ ∃ s, Reached stop s t ∧ stop s = some true := by
  induction t using parts_induction with
  | step t ih =>
  rw [search_eq]
  cases hstop : stop t with
  | some answer =>
      constructor
      · intro h
        exact ⟨t, .here, hstop.trans (congrArg some h)⟩
      · rintro ⟨s, hreached, hs⟩
        cases hreached with
        | here => exact Option.some.inj (hstop.symm.trans hs)
        | deeper hnone _ _ => rw [hstop] at hnone; cases hnone
  | none =>
      simp only [Option.getD_none, List.any_eq_true]
      constructor
      · rintro ⟨p, hp, hfound⟩
        obtain ⟨s, hreached, hs⟩ := (ih p hp).1 hfound
        exact ⟨s, .deeper hstop hp hreached, hs⟩
      · rintro ⟨s, hreached, hs⟩
        cases hreached with
        | here => rw [hstop] at hs; cases hs
        | deeper _ hp hbelow => exact ⟨_, hp, (ih _ hp).2 ⟨s, hbelow, hs⟩⟩

-- =============================================================== calls

/-- Whether a tree is a call. -/
def isCall : Tree → Bool
  | .call _ _ => true
  | _ => false

/-- A tree is part of another, and not inside a call; it may be a call
itself. -/
inductive Outside (s : Tree) : Tree → Prop where
  | here : Outside s s
  | deeper {t p : Tree} (hcall : t.isCall = false) (hp : p ∈ t.parts)
      (h : Outside s p) :
      Outside s t

theorem Outside.within {s t : Tree} (h : s.Outside t) : s.Within t := by
  induction h with
  | here => exact .here
  | deeper _ hp _ ih => exact .deeper hp ih

theorem Within.trans {r s t : Tree} (hr : r.Within s) (hs : s.Within t) :
    r.Within t := by
  induction hs with
  | here => exact hr
  | deeper hp _ ih => exact .deeper hp ih

/-- A part at any depth is outside of all calls or inside the outermost one on
the way to it. -/
theorem within_iff {s t : Tree} :
    s.Within t ↔ s.Outside t ∨ ∃ callee arguments,
      (call callee arguments).Outside t ∧
      ∃ p ∈ callee :: arguments, s.Within p := by
  constructor
  · intro h
    induction h with
    | here => exact .inl .here
    | @deeper t p hp hwithin ih =>
        by_cases hcall : t.isCall = true
        · cases t with
          | call callee arguments =>
              exact .inr ⟨callee, arguments, .here, p, hp, hwithin⟩
          | _ => cases hcall
        · have hcall : t.isCall = false := Bool.eq_false_iff.2 hcall
          rcases ih with houtside | ⟨callee, arguments, houtside, q,
            hq, hinside⟩
          · exact .inl (.deeper hcall hp houtside)
          · exact .inr ⟨callee, arguments, .deeper hcall hp houtside, q,
              hq, hinside⟩
  · rintro (houtside | ⟨callee, arguments, houtside, p, hp, hwithin⟩)
    · exact houtside.within
    · exact .trans (.deeper (t := call callee arguments) hp hwithin)
        houtside.within

end Tree

-- ======================================================== explanations

/-- A tree that shows by itself that a model is explained. A dotted name begins
with the package it is in; a name that is empty names no module. -/
inductive Evident (required : List String) : Tree → Prop where
  | imports {modules : List String} {name package : String} {rest : List String}
      (hname : name ∈ modules)
      (hparts : Text.splitOnChar '.' name = package :: rest)
      (hrequired : package ∈ required) : Evident required (.imports modules)
  | importFrom {source part : String} (hsource : source ≠ "")
      (hpart : part ∈ Text.splitOnChar '.' source)
      (hrequired : part ∈ required) :
      Evident required (.importFrom (some source))
  | call {value : Tree} {member : String} {arguments : List Tree}
      (hmember : member ∈ ["explain", "summary_plot", "force_plot"]) :
      Evident required (.call (.attribute value member) arguments)

variable {required : List String}

/-- A dotted name has a first part. -/
theorem splitOnChar_ne_nil (sep : Char) (s : String) :
    Text.splitOnChar sep s ≠ [] := by
  intro hnil
  obtain ⟨more, hmore⟩ := Text.head_splitAtChar sep [] s.toList
  rw [Text.splitOnChar, List.map_eq_nil_iff] at hnil
  rw [hnil] at hmore
  cases hmore

/-- The search answers yes at the trees that are signs. -/
theorem explanation_eq_true_iff (t : Tree) :
    explanation required t = some true ↔ Evident required t := by
  constructor
  · intro h
    unfold explanation at h
    split at h
    · -- an import: one of its modules is in a required package
      obtain ⟨name, hname, hfirst⟩ := List.any_eq_true.1 (Option.some.inj h)
      obtain ⟨package, rest, hparts⟩ :=
        List.exists_cons_of_ne_nil (splitOnChar_ne_nil '.' name)
      rw [hparts] at hfirst
      exact .imports hname hparts (List.contains_iff_mem.1 hfirst)
    · cases h
    · -- an import from a module: some part of its name is required
      obtain ⟨hsource, hany⟩ := Bool.and_eq_true_iff.1 (Option.some.inj h)
      obtain ⟨part, hpart, hrequired⟩ := List.any_eq_true.1 hany
      exact .importFrom (by simpa using hsource) hpart
        (List.contains_iff_mem.1 hrequired)
    · exact .call (List.contains_iff_mem.1 (Option.some.inj h))
    · cases h
    · cases h
  · intro h
    cases h with
    | imports hname hparts hrequired =>
        refine congrArg some (List.any_eq_true.2 ⟨_, hname, ?_⟩)
        rw [hparts]
        exact List.contains_iff_mem.2 hrequired
    | importFrom hsource hpart hrequired =>
        refine congrArg some
          (Bool.and_eq_true_iff.2 ⟨by simpa using hsource, ?_⟩)
        exact List.any_eq_true.2 ⟨_, hpart, List.contains_iff_mem.2 hrequired⟩
    | call hmember => exact congrArg some (List.contains_iff_mem.2 hmember)

/-- Of the trees with parts, the search stops at calls alone. -/
theorem explanation_eq_none_iff {t p : Tree} (hp : p ∈ t.parts) :
    explanation required t = none ↔ t.isCall = false := by
  unfold explanation
  split
  · cases hp
  · cases hp
  · cases hp
  · simp [Tree.isCall]
  · simp [Tree.isCall]
  · rename_i hcall
    simp only [true_iff]
    cases t with
    | call callee arguments => exact absurd rfl (hcall callee arguments)
    | _ => rfl

/-- The search comes to what stands outside of calls. -/
theorem reached_explanation_iff {s t : Tree} :
    s.Reached (explanation required) t ↔ s.Outside t := by
  constructor
  · intro h
    induction h with
    | here => exact .here
    | deeper hstop hp _ ih =>
        exact .deeper ((explanation_eq_none_iff hp).1 hstop) hp ih
  · intro h
    induction h with
    | here => exact .here
    | deeper hcall hp _ ih =>
        exact .deeper ((explanation_eq_none_iff hp).2 hcall) hp ih

/-- A module shows an explanation by the signs outside of calls. -/
theorem showsExplanation_eq_true_iff (module : List Tree) :
    showsExplanation required module = true ↔
      ∃ s, Evident required s ∧ ∃ t ∈ module, s.Outside t := by
  unfold showsExplanation
  simp only [Tree.searchAny_eq_any, List.any_eq_true, Tree.search_eq_true_iff,
    explanation_eq_true_iff, reached_explanation_iff]
  constructor
  · rintro ⟨t, ht, s, houtside, hsign⟩
    exact ⟨s, hsign, t, ht, houtside⟩
  · rintro ⟨s, hsign, t, ht, houtside⟩
    exact ⟨t, ht, s, houtside, hsign⟩

/-- Exactly the signs outside of all calls are found; the others stand inside
the callee or an argument of a call that is itself outside of all calls. -/
theorem explanation_found_outside_calls (required : List String)
    (module : List Tree) :
    (showsExplanation required module = true ↔
      ∃ s, Evident required s ∧ ∃ t ∈ module, s.Outside t) ∧
    ((∃ s, Evident required s ∧ ∃ t ∈ module, s.Within t) ↔
      showsExplanation required module = true ∨
        ∃ s, Evident required s ∧ ∃ t ∈ module, ∃ callee arguments,
          (Tree.call callee arguments).Outside t ∧ ∃ p ∈ callee :: arguments,
          s.Within p) := by
  refine ⟨showsExplanation_eq_true_iff module, ?_⟩
  rw [showsExplanation_eq_true_iff]
  constructor
  · rintro ⟨s, hsign, t, ht, hwithin⟩
    rcases Tree.within_iff.1 hwithin with houtside | hinside
    · exact .inl ⟨s, hsign, t, ht, houtside⟩
    · exact .inr ⟨s, hsign, t, ht, hinside⟩
  · rintro (⟨s, hsign, t, ht, houtside⟩ | ⟨s, hsign, t, ht, hinside⟩)
    · exact ⟨s, hsign, t, ht, houtside.within⟩
    · exact ⟨s, hsign, t, ht, Tree.within_iff.2 (.inr hinside)⟩

/-- The call `model.explain(x)`. -/
def explainingCall : Tree :=
  .call (.attribute (.name "model") "explain") [.name "x"]

/-- The statement `print(model.explain(x))`. -/
def printingStatement : Tree :=
  .node .expression [.call (.name "print") [explainingCall]]

/-- A call that explains, as the argument of another, is a sign that is not
found. -/
theorem explanation_missed_in_argument :
    (Evident ["shap"] explainingCall ∧
      explainingCall.Within printingStatement) ∧
      showsExplanation ["shap"] [printingStatement] = false ∧
      (parse? "print(model.explain(x))\n".toList).map
        (showsExplanation ["shap"])
        = some false := by
  refine ⟨⟨.call (.head _), ?_⟩, by decide, by decide +kernel⟩
  exact .deeper (.head _) (.deeper (.tail _ (.head _)) .here)

end SourceAudit.Code
