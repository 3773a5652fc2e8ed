/-
Where names lead from a place, and which of them lead back into a folder.

Two dots lead to the folder above, any other name leads into a folder. Names
in a row have a way in its shortest form, so many steps up and then names
down; from every place they lead where their way does (`foldl_onward`). So
names that climb out of a folder end inside it just if they come back by the
very names they have climbed past (`inside_iff_keepsTo`).
-/
import SourceAudit.Proofs.Path.Normal
import Mathlib.Data.List.Induction

namespace SourceAudit.Path

-- ============================================================== places

/-- The place one name further on; two dots lead back to the folder above. -/
def onward (place : List String) (name : String) : List String :=
  if name == ".." then place.dropLast else place ++ [name]

/-- The places that names lead past, from the start to the end. -/
def passed (place : List String) : List String → List (List String)
  | [] => [place]
  | name :: rest => place :: passed (onward place name) rest

theorem onward_dots (place : List String) :
    onward place ".." = place.dropLast := rfl

theorem onward_name {name : String} (h : name ≠ "..") (place : List String) :
    onward place name = place ++ [name] := by
  rw [onward, if_neg (by simpa using h)]

theorem start_mem_passed (place ns : List String) :
    place ∈ passed place ns := by
  cases ns with
  | nil => exact List.mem_singleton_self place
  | cons name rest => exact List.mem_cons_self

/-- All folders above the end have been passed, or lie above the start. -/
theorem mem_passed_of_prefix {place ns p : List String}
    (h : p <+: ns.foldl onward place) : p ∈ passed place ns ∨ p <+: place := by
  induction ns generalizing place with
  | nil => exact .inr h
  | cons name rest ih =>
      rcases ih h with hlater | hhere
      · exact .inl (List.mem_cons_of_mem place hlater)
      · by_cases hname : name = ".."
        · rw [hname, onward_dots] at hhere
          exact .inr (hhere.trans (List.dropLast_prefix place))
        · rw [onward_name hname] at hhere
          rcases List.prefix_concat_iff.1 hhere with rfl | hshort
          · refine .inl (List.mem_cons_of_mem place ?_)
            rw [onward_name hname]
            exact start_mem_passed _ rest
          · exact .inr hshort

-- ================================================================ ways

/-- A way through folders in its shortest form: so many steps up, then names
down. -/
structure Way where
  up : Nat
  down : List String
  deriving DecidableEq, Repr

/-- A way with one more name: two dots take the last name back, or lead one
step further up. -/
def Way.step (w : Way) (name : String) : Way :=
  if name == ".." then
    if w.down.isEmpty then { w with up := w.up + 1 }
    else { w with down := w.down.dropLast }
  else { w with down := w.down ++ [name] }

/-- The way that names lead. -/
def wayOf (ns : List String) : Way :=
  ns.foldl Way.step ⟨0, []⟩

/-- The place that a way leads to; above the root there is nothing. -/
def Way.from (w : Way) (place : List String) : List String :=
  place.take (place.length - w.up) ++ w.down

theorem Way.from_step (w : Way) (name : String) (place : List String) :
    (w.step name).from place = onward (w.from place) name := by
  obtain ⟨up, down⟩ := w
  by_cases hname : name = ".."
  · subst hname
    by_cases hdown : down = []
    · -- the way has come back to where it turned, and climbs on
      subst hdown
      show place.take (place.length - (up + 1)) ++ [] = _
      rw [onward_dots, Way.from, List.append_nil, List.append_nil,
        List.dropLast_eq_take, List.take_take, List.length_take]
      dsimp only
      congr 1
      omega
    · have hstep : (⟨up, down⟩ : Way).step ".." = ⟨up, down.dropLast⟩ := by
        simp [step, hdown]
      rw [hstep, onward_dots, Way.from, Way.from,
        List.dropLast_append_of_ne_nil hdown]
  · have hstep : (⟨up, down⟩ : Way).step name = ⟨up, down ++ [name]⟩ := by
      simp [step, hname]
    rw [hstep, onward_name hname, Way.from, Way.from, List.append_assoc]

/-- Names lead where their way does. -/
theorem foldl_onward (place ns : List String) :
    ns.foldl onward place = (wayOf ns).from place := by
  induction ns using List.reverseRecOn with
  | nil => simp [wayOf, Way.from]
  | append_singleton ns name ih =>
      have hlast : wayOf (ns ++ [name]) = (wayOf ns).step name := by
        simp [wayOf]
      rw [List.foldl_append, List.foldl_cons, List.foldl_nil, ih, hlast,
        Way.from_step]

/-- Names lead on from where they started just if they come back by the names
they have climbed past. -/
theorem foldl_onward_eq_append_iff (place ns inner : List String) :
    ns.foldl onward place = place ++ inner ↔
      (wayOf ns).down
        = place.drop (place.length - (wayOf ns).up) ++ inner := by
  rw [foldl_onward, Way.from]
  generalize place.length - (wayOf ns).up = kept
  have hsplit : place ++ inner
      = place.take kept ++ (place.drop kept ++ inner) := by
    rw [← List.append_assoc, List.take_append_drop]
  rw [hsplit, List.append_cancel_left_eq]

/-- A path keeps to a folder: it ends inside by the names it has climbed past
from there, or by all names of the folder if it begins at the root. -/
def KeepsTo (folder : List String) (path : String) : Prop :=
  ∃ inner, inner ≠ [] ∧ (wayOf (names path)).down
    = (if root path = "" then
        folder.drop (folder.length - (wayOf (names path)).up)
      else folder) ++ inner

/-- Paths that keep to a folder, and no others, lead inside it. -/
theorem inside_iff_keepsTo (folder : List String) (path : String) :
    (∃ inner, inner ≠ [] ∧
        (names path).foldl onward (if root path = "" then folder else [])
          = folder ++ inner) ↔ KeepsTo folder path := by
  refine exists_congr fun inner => and_congr_right fun _ => ?_
  by_cases hroot : root path = ""
  · rw [if_pos hroot, if_pos hroot]
    exact foldl_onward_eq_append_iff folder (names path) inner
  · rw [if_neg hroot, if_neg hroot, foldl_onward, Way.from, List.take_nil,
      List.nil_append]

-- =============================================================== names

theorem names_of_isName {n : String} (h : IsName n) : names n = [n] := by
  have hone : ∀ m ∈ [n], IsName m := fun m hm => List.mem_singleton.1 hm ▸ h
  simpa using names_intercalate hone

theorem root_of_isName {n : String} (h : IsName n) : root n = "" := by
  have hhead : n.toList.head? ≠ some '/' :=
    fun hslash => h.noSlash (List.mem_of_head? hslash)
  simpa using root_append (r := "") (by decide) hhead

section Parent

variable {path : String} {ms : List String} {last : String}

theorem names_parent (h : names path = ms ++ [last]) :
    root (parent path) = root path ∧ names (parent path) = ms := by
  have hnames : ∀ n ∈ ms, IsName n := by
    intro n hn
    exact isName_of_mem_names (h ▸ List.mem_append_left [last] hn)
  have hparent : parent path = normal (root path ++ "/".intercalate ms) := by
    unfold parent
    split
    · rename_i hnone
      rw [hnone] at h
      simp at h
    · rw [h, List.length_append, List.length_singleton, Nat.add_sub_cancel,
        List.take_left]
  rw [hparent, root_normal, names_normal,
    root_append (root_mem_roots path) (head_intercalate hnames),
    names_append (root_mem_roots path) hnames]
  exact ⟨rfl, rfl⟩

end Parent

end SourceAudit.Path
