/-
Lists of entries by key, in the order in which the keys came.

Such a list changes in one way only: the entry of a key that is there is changed
in its place, and the entry of a new key comes last. What this does to the entry
of a key, to the order of the keys and to what holds of all entries is said here
once, for all the lists that grow in this way. Where the keys of a list are
known, the list can be taken key by key (`perm_filter_of_keys`).
-/
import Mathlib.Data.List.Nodup
import Mathlib.Data.List.Perm.Basic

namespace SourceAudit.Entries

variable {α : Type} {key : α → String} {entries : List α} {k : String} {new : α}
  {change : α → α}

/-- The entry of a key. -/
def find? (key : α → String) (k : String) (entries : List α) : Option α :=
  entries.find? fun x => key x == k

/-- Changes the entry of a key in its place, or puts a new entry at the end. -/
def upsert (key : α → String) (k : String) (new : α) (change : α → α)
    (entries : List α) : List α :=
  if k ∈ entries.map key then entries.map fun x => if key x = k then
    change x else x
  else entries ++ [new]

theorem isSome_find? : (find? key k entries).isSome = true ↔
    k ∈ entries.map key := by
  simp only [find?, List.find?_isSome, beq_iff_eq, List.mem_map]

theorem find?_eq_none : find? key k entries = none ↔ k ∉ entries.map key := by
  rw [← isSome_find?, Option.not_isSome_iff_eq_none]

theorem key_of_find? {x : α} (h : find? key k entries = some x) :
    key x = k := by
  simpa using List.find?_some h

/-- Where no key comes twice, an entry is found under its key. -/
theorem find?_of_mem {x : α} (hnodup : (entries.map key).Nodup)
    (h : x ∈ entries) : find? key (key x) entries = some x := by
  obtain ⟨y, hy⟩ :=
    Option.isSome_iff_exists.1 (isSome_find?.2 (List.mem_map_of_mem h))
  have hsame : y = x :=
    List.inj_on_of_nodup_map hnodup (List.mem_of_find?_eq_some hy) h
      (key_of_find? hy)
  rw [hy, hsame]

/-- A change in place changes what is found under the key and nothing else. -/
theorem find?_map_at (hchange : ∀ x, key (change x) = key x) (k' : String) :
    find? key k' (entries.map fun x => if key x = k then change x else x)
      = if k' = k then
        (find? key k' entries).map change else find? key k' entries := by
  have hkey (x : α) : key (if key x = k then change x else x) = key x := by
    split
    · exact hchange x
    · rfl
  have hfind : find? key k' (entries.map fun x => if key x = k then
    change x else x)
      = (find? key k' entries).map fun x => if key x = k then change x
        else x := by
    simp only [find?, List.find?_map, Function.comp_def, hkey]
  rw [hfind]
  cases h : find? key k' entries with
  | none => simp
  | some x =>
      have hx : key x = k' := key_of_find? h
      by_cases hk : k' = k <;> simp [hx, hk]

/-- What is found under a key: for the key itself the changed entry or the new
one, for any other what was there. -/
theorem find?_upsert (hnew : key new = k)
    (hchange : ∀ x, key (change x) = key x) (k' : String) :
    find? key k' (upsert key k new change entries)
      = if k' = k then some ((find? key k' entries).elim new change)
        else find? key k' entries := by
  unfold upsert
  split
  · rename_i hmem
    rw [find?_map_at hchange]
    split
    · rename_i hk
      subst hk
      obtain ⟨x, hx⟩ := Option.isSome_iff_exists.1 (isSome_find?.2 hmem)
      simp [hx]
    · rfl
  · rename_i hmem
    have happend : find? key k' (entries ++ [new])
        = (find? key k' entries).or (find? key k' [new]) := List.find?_append
    rw [happend]
    split
    · rename_i hk
      subst hk
      rw [find?_eq_none.2 hmem]
      simp [find?, hnew]
    · rename_i hk
      simp [find?, hnew, Ne.symm hk]

/-- A new key comes last; else the keys stay as they are. -/
theorem keys_upsert (hnew : key new = k)
    (hchange : ∀ x, key (change x) = key x) :
    (upsert key k new change entries).map key
      = if k ∈ entries.map key then entries.map key
        else entries.map key ++ [k] := by
  unfold upsert
  split
  · rw [List.map_map]
    refine List.map_congr_left fun x _ => ?_
    simp only [Function.comp_apply]
    split
    · exact hchange x
    · rfl
  · rw [List.map_append, List.map_singleton, hnew]

theorem nodup_keys_upsert (hnew : key new = k)
    (hchange : ∀ x, key (change x) = key x) (h : (entries.map key).Nodup) :
    ((upsert key k new change entries).map key).Nodup := by
  rw [keys_upsert hnew hchange]
  split
  · exact h
  · rename_i hmem
    refine List.nodup_append.2 ⟨h, List.nodup_singleton k, ?_⟩
    rintro a ha b hb rfl
    exact hmem (List.mem_singleton.1 hb ▸ ha)

/-- What holds of all entries, of the new one and of what the change makes of an
entry, holds of all entries afterwards. -/
theorem forall_mem_upsert {P : α → Prop} (h : ∀ x ∈ entries, P x) (hnew : P new)
    (hchange : ∀ x, P x → P (change x)) :
    ∀ x ∈ upsert key k new change entries, P x := by
  intro x hx
  unfold upsert at hx
  split at hx
  · obtain ⟨y, hy, rfl⟩ := List.mem_map.1 hx
    split
    · exact hchange y (h y hy)
    · exact h y hy
  · rcases List.mem_append.1 hx with hx | hx
    · exact h x hx
    · exact List.mem_singleton.1 hx ▸ hnew

/-- Items taken key by key are the items whose keys are taken. -/
theorem perm_filter_of_keys {α κ : Type} [DecidableEq κ] {keys : List κ}
    (h : keys.Nodup) (key : α → κ) (l : List α) :
    (keys.flatMap fun k => l.filter fun a => key a == k).Perm
      (l.filter fun a => decide (key a ∈ keys)) := by
  induction keys with
  | nil => simp
  | cons k ks ih =>
      obtain ⟨hk, hks⟩ := List.nodup_cons.1 h
      -- the items with the first key and the others, of those whose keys are
      -- taken
      have hsplit := List.filter_append_perm (fun a => key a == k)
        (l.filter fun a => decide (key a ∈ k :: ks))
      have hfirst : (l.filter fun a => decide (key a ∈ k :: ks)).filter
        (fun a => key a == k)
          = l.filter fun a => key a == k := by
        rw [List.filter_filter]
        exact List.filter_congr fun a _ => by by_cases ha : key a
          = k <;> simp [ha]
      have hothers :
        (l.filter fun a => decide (key a ∈ k :: ks)).filter (fun a =>
          !(key a == k))
          = l.filter fun a => decide (key a ∈ ks) := by
        rw [List.filter_filter]
        refine List.filter_congr fun a _ => ?_
        by_cases ha : key a = k
        · simp [ha, hk]
        · simp [ha]
      rw [hfirst, hothers] at hsplit
      exact ((ih hks).append_left _).trans hsplit

end SourceAudit.Entries
