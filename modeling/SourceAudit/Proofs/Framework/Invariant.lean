/-
What holds of the frameworks detected so far, whichever checks were made, in
whatever order, at whatever paths of whatever trees.

Two things are said of a single piece of evidence and carried over to runs of
checks. It keeps every entry in line with the table of frameworks
(`Sound.take`), and it only adds: no key moves or goes, and no list of files
loses or changes what it has (`extends_take`). Nothing else about the checks is
needed, since all they do is take evidence in (`Check.run_eq`).
-/
import SourceAudit.Proofs.Framework.Evidence

namespace SourceAudit.Framework

-- ============================================================ evidence

/-- Evidence for a framework of the table, whose files are in plain form and
each named once. -/
structure Evidence.Sound (e : Evidence) : Prop where
  known : e.profile ∈ profiles
  files_nodup : e.files.Nodup
  files_normal : ∀ f ∈ e.files, Path.normal f = f

/-- Evidence that names the file it was found in. -/
theorem Evidence.sound_of_file {e : Evidence} {path : String} {first : Float}
    {rise : Option Float} {P : Profile → Prop}
    (h : ∃ p ∈ profiles, e = ⟨p, first, rise, [Path.normal path]⟩ ∧ P p) :
    e.Sound := by
  obtain ⟨p, hp, rfl, -⟩ := h
  exact ⟨hp, List.nodup_singleton _, by simp⟩

/-- All that a check finds is sound. -/
theorem Check.sound_of_mem {c : Check} {tree : FileTree} {path : String}
    {e : Evidence} (h : e ∈ c.evidence tree path) : e.Sound := by
  cases c with
  | packageFiles =>
      rcases List.mem_append.1 h with h | h
      · exact Evidence.sound_of_file (mem_requirementEvidence.1 h)
      rcases List.mem_append.1 h with h | h
      · exact Evidence.sound_of_file (mem_setupEvidence.1 h)
      · exact Evidence.sound_of_file (mem_packageFileEvidence.1 h)
  | requirements => exact Evidence.sound_of_file (mem_requirementEvidence.1 h)
  | packageFile => exact Evidence.sound_of_file (mem_packageFileEvidence.1 h)
  | setup => exact Evidence.sound_of_file (mem_setupEvidence.1 h)
  | file => exact Evidence.sound_of_file (mem_sourceEvidence.1 h)
  | layout =>
      obtain ⟨-, p, hp, ⟨rfl, -⟩ | ⟨file, -, rfl, -⟩⟩ := mem_layoutEvidence.1 h
      · exact ⟨hp, List.nodup_nil, by simp⟩
      · exact ⟨hp, List.nodup_singleton _, by simp⟩

-- =========================================================== soundness

/-- An entry in line with the table: it stands under its own name, has the area
of the table and no version, and names each file once, in plain form. -/
structure Detected.Fits (d : Detected) (key : String) : Prop where
  name : d.name = key
  area : ∃ p, profile? key = some p ∧ d.area = p.area
  version : d.version = none
  files_nodup : d.files.Nodup
  files_normal : ∀ f ∈ d.files, Path.normal f = f

/-- Each key stands once, over an entry in line with the table. -/
structure Detections.Sound (found : Detections) : Prop where
  keys_nodup : (found.map Prod.fst).Nodup
  fits : ∀ key d, (key, d) ∈ found → d.Fits key

theorem Evidence.Sound.entered {e : Evidence} (h : e.Sound) :
    e.entered.Fits e.key where
  name := rfl
  area := ⟨e.profile, profile?_eq_some_iff.2 ⟨h.known, rfl⟩, rfl⟩
  version := rfl
  files_nodup := h.files_nodup
  files_normal := h.files_normal

theorem Evidence.Sound.confirmed {e : Evidence} (h : e.Sound) {d : Detected}
    {key : String} (hd : d.Fits key) : (e.confirmed d).Fits key := by
  unfold Evidence.confirmed
  split
  · refine ⟨hd.name, hd.area, hd.version, ?_, ?_⟩
    · -- what is added is not there yet
      refine List.nodup_append.2 ⟨hd.files_nodup, h.files_nodup.filter _, ?_⟩
      rintro f hf g hg rfl
      simp [hf] at hg
    · intro f hf
      rcases List.mem_append.1 hf with hf | hf
      · exact hd.files_normal f hf
      · exact h.files_normal f (List.mem_of_mem_filter hf)
  · exact hd

namespace Detections

theorem sound_nil : Sound [] :=
  ⟨List.nodup_nil, fun _ _ h => absurd h List.not_mem_nil⟩

/-- A piece of evidence keeps all entries in line with the table. -/
theorem Sound.take {found : Detections} (h : found.Sound) {e : Evidence}
    (he : e.Sound) : (found.take e).Sound := by
  rw [take_eq_upsert]
  refine ⟨Entries.nodup_keys_upsert rfl (fun _ => rfl) h.keys_nodup,
    fun key d hmem => ?_⟩
  refine Entries.forall_mem_upsert (P := fun x : String × Detected =>
    x.2.Fits x.1) ?_ he.entered
    (fun x hx => he.confirmed hx) (key, d) hmem
  exact fun x hx => h.fits x.1 x.2 hx

theorem Sound.takeAll {found : Detections} (h : found.Sound)
    {es : List Evidence} (hes : ∀ e ∈ es, e.Sound) :
    (found.takeAll es).Sound := by
  induction es generalizing found with
  | nil => exact h
  | cons e es ih =>
      exact ih (h.take (hes e List.mem_cons_self)) fun x hx =>
        hes x (List.mem_cons_of_mem e hx)

-- ============================================================== growth

/-- Later detections that only add to earlier ones: keys come after those that
were there, and so do files in every entry. -/
structure Extends (before after : Detections) : Prop where
  keys : before.map Prod.fst <+: after.map Prod.fst
  files : ∀ key d, before.lookup key = some d →
    ∃ d', after.lookup key = some d' ∧ d.files <+: d'.files

theorem Extends.refl (found : Detections) : Extends found found :=
  ⟨List.prefix_refl _, fun _ d h => ⟨d, h, List.prefix_refl _⟩⟩

theorem Extends.trans {a b c : Detections} (h : Extends a b)
    (h' : Extends b c) : Extends a c := by
  refine ⟨h.keys.trans h'.keys, fun key d hd => ?_⟩
  obtain ⟨d', hd', hfiles⟩ := h.files key d hd
  obtain ⟨d'', hd'', hfiles'⟩ := h'.files key d' hd'
  exact ⟨d'', hd'', hfiles.trans hfiles'⟩

theorem files_prefix_confirmed (e : Evidence) (d : Detected) :
    d.files <+: (e.confirmed d).files := by
  unfold Evidence.confirmed
  split
  · exact List.prefix_append _ _
  · exact List.prefix_refl _

/-- A piece of evidence only adds. -/
theorem extends_take (found : Detections) (e : Evidence) :
    Extends found (found.take e) := by
  constructor
  · rw [keys_take]
    split
    · exact List.prefix_refl _
    · exact List.prefix_append _ _
  · intro key d hd
    rw [lookup_take, hd, Evidence.update]
    split
    · exact ⟨e.confirmed d, rfl, files_prefix_confirmed e d⟩
    · exact ⟨d, rfl, List.prefix_refl _⟩

theorem extends_takeAll (found : Detections) (es : List Evidence) :
    Extends found (found.takeAll es) := by
  induction es generalizing found with
  | nil => exact .refl found
  | cons e es ih => exact (extends_take found e).trans (ih (found.take e))

end Detections

-- ================================================================ runs

/-- A check at some path of some tree. -/
structure Step where
  check : Check
  tree : FileTree
  path : String

/-- What is detected after one more step. -/
def Step.apply (s : Step) (found : Detections) : Detections :=
  s.check.run s.tree s.path found

/-- What is detected after steps that started from nothing. -/
def afterSteps (steps : List Step) : Detections :=
  steps.foldl (fun found s => s.apply found) []

theorem sound_apply {found : Detections} (h : found.Sound) (s : Step) :
    (s.apply found).Sound := by
  rw [Step.apply, Check.run_eq]
  exact h.takeAll fun _ => Check.sound_of_mem

theorem sound_foldl_apply {found : Detections} (h : found.Sound)
    (steps : List Step) :
    Detections.Sound (steps.foldl (fun found s => s.apply found) found) := by
  induction steps generalizing found with
  | nil => exact h
  | cons s steps ih => exact ih (sound_apply h s)

/-- After any steps the detections are in line with the table of frameworks, and
any further step only adds to them. -/
theorem afterSteps_sound_and_extended (steps : List Step) (next : Step) :
    (afterSteps steps).Sound ∧
      Detections.Extends (afterSteps steps) (afterSteps (steps ++ [next])) := by
  refine ⟨sound_foldl_apply Detections.sound_nil steps, ?_⟩
  have hlast : afterSteps (steps ++ [next])
      = next.apply (afterSteps steps) := by
    simp [afterSteps]
  rw [hlast, Step.apply, Check.run_eq]
  exact Detections.extends_takeAll _ _

/-- A detection is a run of checks: the package files, the sources and the
layout. -/
theorem sound_detect (tree : FileTree) (target : String) :
    (detect tree target).Sound := by
  let sources := (filesOf tree target).filter isScanned
  have hsteps : detect tree target
    = afterSteps (⟨.packageFiles, tree, target⟩ :: sources.map (fun path =>
      ⟨.file, tree, path⟩) ++ [⟨.layout, tree, target⟩]) := by
    simp only [afterSteps, List.cons_append, List.foldl_cons, List.foldl_append,
      List.foldl_map, List.foldl_nil]
    rfl
  rw [hsteps]
  exact sound_foldl_apply Detections.sound_nil _

end SourceAudit.Framework
