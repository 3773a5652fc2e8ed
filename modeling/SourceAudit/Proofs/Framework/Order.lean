/-
The order in which source files are looked through does not matter.

A file gives one piece of evidence for each pattern that occurs in it, the same
confidence on entry and the same rise for all. Two such pieces can be taken in
either order: whichever comes first enters the framework, the other one raises
it, and both orders list the same files (`update_comm`). So what stands under a
key after many pieces depends on their order only in the order of the files
(`foldl_update_perm`).
-/
import Mathlib.Data.Option.Basic
import SourceAudit.Proofs.Framework.Evidence

namespace SourceAudit.Framework

-- =========================================================== agreement

/-- Two entries that differ at most in the order of their files. -/
structure Detected.Agrees (a b : Detected) : Prop where
  name : a.name = b.name
  area : a.area = b.area
  version : a.version = b.version
  confidence : a.confidence = b.confidence
  files : a.files.Perm b.files

namespace Detected.Agrees

@[refl] theorem refl (a : Detected) : Agrees a a :=
  ⟨rfl, rfl, rfl, rfl, List.Perm.refl _⟩

theorem trans {a b c : Detected} (h : Agrees a b) (h' : Agrees b c) :
    Agrees a c :=
  ⟨h.name.trans h'.name, h.area.trans h'.area, h.version.trans h'.version,
    h.confidence.trans h'.confidence, h.files.trans h'.files⟩

/-- Agreeing entries stay so when the same evidence confirms them. -/
theorem confirmed {a b : Detected} (h : Agrees a b) (e : Evidence) :
    Agrees (e.confirmed a) (e.confirmed b) := by
  unfold Evidence.confirmed
  split
  · refine ⟨h.name, h.area, h.version, ?_, ?_⟩
    · simp only [confirm, h.confidence]
    · have hsame : (e.files.filter fun f => !a.files.contains f)
          = e.files.filter fun f => !b.files.contains f := by
        refine List.filter_congr fun f _ => ?_
        simp only [List.contains_eq_mem, h.files.mem_iff]
      simp only [confirm, hsame]
      exact h.files.append_right _
  · exact h

end Detected.Agrees

/-- Agreement of what stands under a key: nothing in either place, or entries
that agree. -/
abbrev AgreeUnder (a b : Option Detected) : Prop :=
  Option.Rel Detected.Agrees a b

theorem AgreeUnder.refl (a : Option Detected) : AgreeUnder a a := by
  cases a with
  | none => exact .none
  | some d => exact .some (.refl d)

theorem AgreeUnder.trans {a b c : Option Detected} (h : AgreeUnder a b)
    (h' : AgreeUnder b c) : AgreeUnder a c := by
  cases h with
  | none => exact h'
  | some hab =>
      cases h' with
      | some hbc => exact .some (hab.trans hbc)

theorem AgreeUnder.isSome_iff {a b : Option Detected} (h : AgreeUnder a b) :
    a.isSome = true ↔ b.isSome = true := by
  cases h <;> simp

/-- The same evidence keeps agreement. -/
theorem AgreeUnder.update {a b : Option Detected} (h : AgreeUnder a b)
    (e : Evidence) (key : String) :
    AgreeUnder (e.update key a) (e.update key b) := by
  unfold Evidence.update
  split
  · cases h with
    | none => exact .some (.refl _)
    | some hab => exact .some (hab.confirmed e)
  · exact h

theorem AgreeUnder.foldl_update {a b : Option Detected} (h : AgreeUnder a b)
    (es : List Evidence) (key : String) :
    AgreeUnder (es.foldl (fun d e => e.update key d) a)
      (es.foldl (fun d e => e.update key d) b) := by
  induction es generalizing a b with
  | nil => exact h
  | cons e es ih => exact ih (h.update e key)

-- ============================================================ exchange

/-- Files with one more, unless it is among them. -/
def withFile (files : List String) (f : String) : List String :=
  if f ∈ files then files else files ++ [f]

/-- Two files can be added in either order. -/
theorem withFile_comm (files : List String) (f g : String) :
    (withFile (withFile files f) g).Perm (withFile (withFile files g) f) := by
  by_cases hfg : f = g
  · rw [hfg]
  by_cases hf : f ∈ files <;> by_cases hg : g ∈ files
  · simp [withFile, hf, hg]
  · simp [withFile, hf, hg]
  · simp [withFile, hf, hg]
  · have hgf : g ∉ files ++ [f] := by simp [hg, Ne.symm hfg]
    have hfg' : f ∉ files ++ [g] := by simp [hf, hfg]
    simp only [withFile, if_neg hf, if_neg hg, if_neg hgf, if_neg hfg',
      List.append_assoc]
    exact (List.Perm.swap g f []).append_left files

theorem files_confirm (d : Detected) (rise : Float) (f : String) :
    (d.confirm rise [f]).files = withFile d.files f := by
  by_cases h : f ∈ d.files <;> simp [Detected.confirm, withFile, h]

/-- The evidence that a pattern in a file gives. -/
def Evidence.IsSighting (e : Evidence) : Prop :=
  ∃ p ∈ profiles, ∃ path, e = ⟨p, 0.7, some 0.1, [path]⟩

/-- Two patterns can be met in either order: one enters the framework, the other
raises it, and the confidence is the same. -/
theorem update_comm {e e' : Evidence} (he : e.IsSighting) (he' : e'.IsSighting)
    (key : String) (d : Option Detected) :
    AgreeUnder (e'.update key (e.update key d))
      (e.update key (e'.update key d)) := by
  obtain ⟨p, hp, path, rfl⟩ := he
  obtain ⟨p', hp', path', rfl⟩ := he'
  unfold Evidence.update Evidence.key
  by_cases hkey : key = p.name <;> by_cases hkey' : key = p'.name
  · -- both speak for the framework under the key, so they speak for the
    -- same one
    obtain rfl : p = p' := eq_of_name_eq hp hp' (hkey.symm.trans hkey')
    simp only [if_pos hkey]
    cases d with
    | none =>
        refine .some ⟨rfl, rfl, rfl, rfl, ?_⟩
        simp only [Option.elim, Evidence.confirmed, files_confirm]
        exact withFile_comm [] path path'
    | some d =>
        refine .some ⟨rfl, rfl, rfl, rfl, ?_⟩
        simp only [Option.elim, Evidence.confirmed, files_confirm]
        exact withFile_comm d.files path path'
  · simp only [if_pos hkey, if_neg hkey']
    exact .refl _
  · simp only [if_neg hkey, if_pos hkey']
    exact .refl _
  · simp only [if_neg hkey, if_neg hkey']
    exact .refl _

/-- What stands under a key after many patterns were met, in one order or
another. -/
theorem foldl_update_perm {es es' : List Evidence} (h : es.Perm es')
    (hes : ∀ e ∈ es, e.IsSighting) (key : String) (d : Option Detected) :
    AgreeUnder (es.foldl (fun d e => e.update key d) d)
      (es'.foldl (fun d e => e.update key d) d) := by
  induction h generalizing d with
  | nil => exact .refl d
  | cons e _ ih =>
      exact ih (fun x hx => hes x (List.mem_cons_of_mem e hx)) (e.update key d)
  | swap e e' rest =>
      have he : e.IsSighting :=
        hes e (List.mem_cons_of_mem e' List.mem_cons_self)
      have he' : e'.IsSighting := hes e' List.mem_cons_self
      exact (update_comm he' he key d).foldl_update rest key
  | trans h₁ _ ih₁ ih₂ =>
      exact (ih₁ hes d).trans (ih₂ (fun x hx => hes x (h₁.mem_iff.2 hx)) d)

-- =============================================================== files

theorem isSighting_of_mem {tree : FileTree} {path : String} {e : Evidence}
    (h : e ∈ sourceEvidence tree path) : e.IsSighting := by
  obtain ⟨p, hp, rfl, -⟩ := mem_sourceEvidence.1 h
  exact ⟨p, hp, Path.normal path, rfl⟩

/-- The order in which files are looked through does not matter: whatever was
detected before, looking through the same files in another order detects the
same frameworks with the same confidence, and gives them away by the same
files. -/
theorem checkFile_perm (tree : FileTree) (found : Detections)
    {paths paths' : List String} (h : paths.Perm paths') :
    let one := paths.foldl (fun found path => checkFile tree path found) found
    let other :=
      paths'.foldl (fun found path => checkFile tree path found) found
    (∀ key, key ∈ one.map Prod.fst ↔ key ∈ other.map Prod.fst) ∧
      ∀ key, AgreeUnder (one.lookup key) (other.lookup key) := by
  intro one other
  have hagree (key : String) :
      AgreeUnder (one.lookup key) (other.lookup key) := by
    simp only [one, other, checkFiles_eq, Detections.lookup_takeAll]
    refine foldl_update_perm (h.flatMap_right _) (fun e he => ?_) key _
    obtain ⟨path, -, hpath⟩ := List.mem_flatMap.1 he
    exact isSighting_of_mem hpath
  refine ⟨fun key => ?_, hagree⟩
  rw [← Detections.has_iff_mem, ← Detections.has_iff_mem,
    Detections.has_iff_lookup, Detections.has_iff_lookup]
  exact (hagree key).isSome_iff

/-- Two files that give the same framework away, one of them met twice, where
nothing was detected before. -/
theorem checkFile_perm_flask :
    let tree :=
      (FileTree.empty.withFile "a.py" (Text.encode "import flask")).withFile
        "b.py" (Text.encode "from flask import Flask")
    let one :=
      ["a.py", "b.py", "a.py"].foldl (fun found path =>
        checkFile tree path found) []
    let other :=
      ["b.py", "a.py", "a.py"].foldl (fun found path =>
        checkFile tree path found) []
    ["a.py", "b.py", "a.py"].Perm ["b.py", "a.py", "a.py"] ∧
      (∀ key, key ∈ one.map Prod.fst ↔ key ∈ other.map Prod.fst) ∧
      ∀ key, AgreeUnder (one.lookup key) (other.lookup key) := by
  intro tree one other
  have hperm : ["a.py", "b.py", "a.py"].Perm ["b.py", "a.py", "a.py"] := by
    decide
  exact ⟨hperm, checkFile_perm tree [] hperm⟩

end SourceAudit.Framework
