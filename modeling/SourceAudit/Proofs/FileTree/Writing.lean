/-
What writing does to a system of files.

Names lead from place to place whether something stands there or not, so a
path has a place before it is located (`placeOf`), and what is located is
located there (`placeOf_of_locate`). The files are seen through `fileAt?`.
Making folders does not show there at all (`addsFolders_makeFolder`), writing
changes the one place its path leads to (`write_eq_ok`, `fileAt?_set`), and
taking a folder away changes nothing outside it (`fileAt?_remove`). A file that
can be read in the working folder is overwritten where it stands
(`write_of_read`).
-/
import SourceAudit.Proofs.FileTree
import SourceAudit.Proofs.Path.Way

namespace SourceAudit.FileTree

open SourceAudit.Path (onward passed)

variable {t t' : FileTree}

-- =============================================================== files

/-- The bytes of the file at a place, if one stands there. -/
def fileAt? (t : FileTree) (place : List String) : Option (List UInt8) :=
  match t.at? place with
  | some (.file bytes) => some bytes
  | _ => none

theorem fileAt?_of_at? {place : List String} {bytes : List UInt8}
    (h : t.at? place = some (.file bytes)) : t.fileAt? place = some bytes := by
  rw [fileAt?, h]

/-- Places that hold the same hold the same file. -/
theorem fileAt?_congr {place : List String} (h : t'.at? place = t.at? place) :
    t'.fileAt? place = t.fileAt? place := by
  rw [fileAt?, fileAt?, h]

/-- The working folder and those above it are folders. -/
theorem at?_of_above {place : List String} (h : place <+: t.home) :
    t.at? place = some .folder := by
  rw [at?, if_pos (List.isPrefixOf_iff_prefix.2 h)]

theorem not_prefix_of_at? {place : List String}
    (h : t.at? place ≠ some .folder) : ¬place <+: t.home :=
  fun hprefix => h (at?_of_above hprefix)

theorem not_prefix_of_none {place : List String} (h : t.at? place = none) :
    ¬place <+: t.home :=
  not_prefix_of_at? (by simp [h])

/-- What is put at a place stands there, and all else as before. -/
theorem at?_set {place : List String} (hplace : ¬place <+: t.home)
    (entry : Entry) (p : List String) :
    (t.set place entry).at? p = if p = place then some entry else t.at? p := by
  by_cases hhome : p <+: t.home
  · have hother : p ≠ place := fun heq => hplace (heq ▸ hhome)
    rw [if_neg hother, at?_of_above hhome]
    exact at?_of_above (t := t.set place entry) hhome
  have hnot : p.isPrefixOf t.home = false := by
    rw [← Bool.not_eq_true, List.isPrefixOf_iff_prefix]
    exact hhome
  unfold at? set
  simp only [hnot, Bool.false_eq_true, if_false]
  rw [List.find?_append, List.find?_filter]
  by_cases hp : p = place
  · subst hp
    have hnone : (t.entries.find? fun e =>
        decide ((e.1 != p) = true ∧ (e.1 == p) = true)) = none := by
      simp
    rw [hnone, if_pos rfl]
    simp
  · have hsame : (fun e : List String × Entry =>
        decide ((e.1 != place) = true ∧ (e.1 == p) = true))
          = fun e => e.1 == p := by
      funext e
      by_cases he : e.1 = p <;> simp [he, hp]
    rw [hsame, if_neg hp, List.find?_singleton,
      if_neg (by simpa using Ne.symm hp), Option.or_none]

/-- A file that is put at a place changes the file there and no other. -/
theorem fileAt?_set {place : List String} (hplace : ¬place <+: t.home)
    (bytes : List UInt8) (p : List String) :
    (t.set place (.file bytes)).fileAt? p
      = if p = place then some bytes else t.fileAt? p := by
  by_cases hp : p = place
  · rw [if_pos hp]
    exact fileAt?_of_at? (by rw [at?_set hplace, if_pos hp])
  · rw [if_neg hp]
    exact fileAt?_congr (by rw [at?_set hplace, if_neg hp])

-- ============================================================== places

/-- The place that a path leads to, whether something stands there or not. -/
def placeOf (t : FileTree) (path : String) : List String :=
  (Path.names path).foldl onward (t.start path)

/-- It is up to the working folder alone where a path leads. -/
theorem placeOf_eq_of_home (h : t'.home = t.home) (path : String) :
    t'.placeOf path = t.placeOf path := by
  rw [placeOf, placeOf, start, start, h]

/-- A path inside a folder leads on from the place of the folder, and one from
the root does not. -/
theorem placeOf_join (t : FileTree) (folder inner : String) :
    t.placeOf (Path.join folder inner) = (Path.names inner).foldl onward
      (if Path.root inner = "" then t.placeOf folder else []) := by
  by_cases hroot : Path.root inner = ""
  · rw [if_pos hroot, placeOf, start_eq_of_root (Path.root_join folder hroot),
      Path.names_join folder hroot, List.foldl_append]
    rfl
  · have hjoin : Path.join folder inner = Path.normal inner := by
      rw [Path.join, if_pos (by simpa using hroot)]
    rw [if_neg hroot, placeOf, hjoin, Path.names_normal, start,
      Path.root_normal, if_neg (by simpa using hroot)]

/-- A name that is no path leads right into its folder. -/
theorem placeOf_join_name (t : FileTree) (folder : String) {name : String}
    (hname : Path.IsName name) (hdots : name ≠ "..") :
    t.placeOf (Path.join folder name) = t.placeOf folder ++ [name] := by
  rw [placeOf_join, if_pos (Path.root_of_isName hname),
    Path.names_of_isName hname, List.foldl_cons, List.foldl_nil,
    Path.onward_name hdots]

theorem placeOf_name (t : FileTree) {name : String} (hname : Path.IsName name)
    (hdots : name ≠ "..") : t.placeOf name = t.home ++ [name] := by
  rw [placeOf, Path.names_of_isName hname, start, Path.root_of_isName hname]
  exact Path.onward_name hdots t.home

/-- A location that is at a place, be it taken or free. -/
def Location.IsAt (place : List String) : Location → Prop
  | .found p _ => p = place
  | .free p => p = place
  | _ => False

/-- What following names locates is where the names lead. -/
theorem foldl_onward_of_isAt {place p ns : List String}
    (h : (t.follow place ns).IsAt p) : ns.foldl onward place = p := by
  induction ns generalizing place with
  | nil =>
      rw [follow] at h
      cases hat : t.at? place with
      | none => simp [hat, Location.IsAt] at h
      | some entry =>
          rw [hat] at h
          exact h
  | cons name rest ih =>
      rw [follow] at h
      rw [List.foldl_cons]
      split at h
      · by_cases hname : name = ".."
        · rw [if_pos (by simpa using hname)] at h
          rw [hname, Path.onward_dots]
          exact ih h
        · rw [if_neg (by simpa using hname)] at h
          rw [Path.onward_name hname]
          split at h
          · simp [Location.IsAt] at h
          · split at h
            · exact ih h
            · split at h
              · rename_i hlast
                rw [List.isEmpty_iff.1 hlast]
                exact h
              · simp [Location.IsAt] at h
      · simp [Location.IsAt] at h
      · simp [Location.IsAt] at h

/-- A path is located where it leads. -/
theorem placeOf_of_locate {path : String} {p : List String}
    (h : (t.locate path).IsAt p) : t.placeOf path = p := by
  rw [locate] at h
  split at h
  · simp [Location.IsAt] at h
  · exact foldl_onward_of_isAt h

/-- Nothing stands at a name that is free. -/
theorem at?_of_free {place p ns : List String}
    (h : t.follow place ns = .free p) : t.at? p = none := by
  induction ns generalizing place with
  | nil =>
      rw [follow] at h
      split at h <;> simp at h
  | cons name rest ih =>
      rw [follow] at h
      split at h
      · split at h
        · exact ih h
        · split at h
          · simp at h
          · split at h
            · exact ih h
            · rename_i hnone
              split at h
              · obtain rfl := Location.free.inj h
                simpa using hnone
              · simp at h
      · simp at h
      · simp at h

/-- A name that a system takes: no path, and not too long. -/
structure IsFit (name : String) : Prop where
  isName : Path.IsName name
  dots : name ≠ ".."
  fit : unfit? name = none
  short : Path.isOverlong name = false

/-- In a folder a name leads to what stands there. -/
theorem follow_name {place : List String} {name : String}
    (hplace : t.at? place = some .folder) (hdots : name ≠ "..")
    (hshort : Path.isOverlong name = false) :
    t.follow place [name] = (t.at? (place ++ [name])).elim
      (.free (place ++ [name])) (.found (place ++ [name])) := by
  rw [follow, hplace]
  dsimp only
  rw [if_neg (by simpa using hdots), hshort, if_neg Bool.false_ne_true]
  cases hat : t.at? (place ++ [name]) with
  | none => rfl
  | some entry =>
      show t.follow _ [] = _
      rw [follow, hat]
      rfl

/-- Where a single name leads. -/
theorem locate_name (t : FileTree) {name : String} (h : IsFit name) :
    t.locate name = (t.at? (t.home ++ [name])).elim (.free (t.home ++ [name]))
      (.found (t.home ++ [name])) := by
  have hstart : t.start name = t.home := by
    rw [start, Path.root_of_isName h.isName]
    rfl
  rw [locate_of_fit h.fit, hstart, Path.names_of_isName h.isName]
  exact follow_name (at?_of_above (List.prefix_refl _)) h.dots h.short

/-- The working folder is open. -/
theorem bar?_home (t : FileTree) (inner : List String) :
    t.bar? (t.home ++ inner) = none := by
  rw [bar?, if_pos (List.isPrefixOf_iff_prefix.2 (List.prefix_append _ _))]

-- ============================================================= growing

/-- From one system to another nothing has been taken away, and what it lets a
program do is the same. -/
structure Grows (t t' : FileTree) : Prop where
  home : t'.home = t.home
  bars : t'.bars = t.bars
  stays : ∀ p, (t.at? p).isSome = true → (t'.at? p).isSome = true

namespace Grows

theorem refl (t : FileTree) : t.Grows t :=
  ⟨rfl, rfl, fun _ h => h⟩

theorem trans {t'' : FileTree} (h : t.Grows t') (h' : t'.Grows t'') :
    t.Grows t'' :=
  ⟨h'.home.trans h.home, h'.bars.trans h.bars,
    fun p hp => h'.stays p (h.stays p hp)⟩

theorem of_set {place : List String} (hplace : ¬place <+: t.home)
    (entry : Entry) : t.Grows (t.set place entry) := by
  refine ⟨rfl, rfl, fun p hp => ?_⟩
  rw [at?_set hplace]
  split
  · rfl
  · exact hp

theorem bar? (h : t.Grows t') (place : List String) :
    t'.bar? place = t.bar? place := by
  rw [FileTree.bar?, FileTree.bar?, h.home, h.bars]

theorem start (h : t.Grows t') (path : String) :
    t'.start path = t.start path := by
  rw [FileTree.start, FileTree.start, h.home]

theorem placeOf (h : t.Grows t') (path : String) :
    t'.placeOf path = t.placeOf path :=
  placeOf_eq_of_home h.home path

end Grows

/-- From one system to another at most folders have been added. -/
structure AddsFolders (t t' : FileTree) : Prop where
  grows : t.Grows t'
  files : ∀ p, t'.fileAt? p = t.fileAt? p

namespace AddsFolders

theorem refl (t : FileTree) : t.AddsFolders t :=
  ⟨.refl t, fun _ => rfl⟩

theorem trans {t'' : FileTree} (h : t.AddsFolders t')
    (h' : t'.AddsFolders t'') : t.AddsFolders t'' :=
  ⟨h.grows.trans h'.grows, fun p => (h'.files p).trans (h.files p)⟩

/-- A folder that is made stands where nothing stood. -/
theorem of_set {place : List String} (hnone : t.at? place = none) :
    t.AddsFolders (t.set place .folder) := by
  have hplace := not_prefix_of_none hnone
  refine ⟨.of_set hplace _, fun p => ?_⟩
  rw [fileAt?, fileAt?, at?_set hplace]
  by_cases hp : p = place
  · rw [if_pos hp, hp, hnone]
  · rw [if_neg hp]

end AddsFolders

-- ============================================================= writing

/-- What can be put at a place is put there, unless the system bars it. -/
theorem put_eq_ok_iff {path : String} {place : List String} {entry : Entry} :
    t.put path place entry = .ok t' ↔
      t.bar? place = none ∧ t' = t.set place entry := by
  rw [put]
  cases t.bar? place with
  | none => simp [eq_comm]
  | some why => simp

/-- A file that is written stands where its path leads, and that is all. -/
theorem write_eq_ok {path : String} {bytes : List UInt8}
    (h : t.write path bytes = .ok t') :
    ¬t.placeOf path <+: t.home ∧
      t' = t.set (t.placeOf path) (.file bytes) := by
  have hplace (p : List String) (hat : (t.locate path).IsAt p) :
      t.placeOf path = p := placeOf_of_locate hat
  rw [write] at h
  cases hloc : t.locate path with
  | found p entry =>
      rw [hloc] at h hplace
      rw [hplace p rfl]
      cases entry with
      | folder => simp at h
      | file old =>
          refine ⟨not_prefix_of_at? ?_, (put_eq_ok_iff.1 h).2⟩
          rw [at?_of_follow (locate_eq_found_iff.1 hloc).2]
          simp
  | free p =>
      rw [hloc] at h hplace
      rw [hplace p rfl]
      refine ⟨not_prefix_of_at? ?_, (put_eq_ok_iff.1 h).2⟩
      rw [locate] at hloc
      split at hloc
      · simp at hloc
      · simp [at?_of_free hloc]
  | missing => simp [hloc] at h
  | blocked => simp [hloc] at h
  | unfit why => simp [hloc] at h

theorem addsFolders_makeWay (root : String) (place before ns : List String) :
    t.AddsFolders (t.makeWay root place before ns).1 := by
  induction ns generalizing t place before with
  | nil => exact .refl t
  | cons name rest ih =>
      rw [makeWay]
      split
      · exact ih _ _
      · split
        · exact .refl t
        · split
          · exact ih _ _
          · exact .refl t
          · rename_i hnone
            split
            · rename_i made hmade
              obtain ⟨-, rfl⟩ := put_eq_ok_iff.1 hmade
              exact (AddsFolders.of_set hnone).trans (ih _ _)
            · exact .refl t

theorem addsFolders_makeFolder (t : FileTree) (path : String) :
    t.AddsFolders (t.makeFolder path).1 := by
  rw [makeFolder]
  split
  · exact .refl t
  · exact .refl t
  · exact .refl t
  · exact .refl t
  · exact addsFolders_makeWay _ _ _ _
  · exact addsFolders_makeWay _ _ _ _

theorem addsFolders_makeOne {path : String} (h : t.makeOne path = .ok t') :
    t.AddsFolders t' := by
  rw [makeOne] at h
  split at h
  · exact Except.ok.inj h ▸ .refl t
  · rename_i place hloc
    obtain ⟨-, rfl⟩ := put_eq_ok_iff.1 h
    rw [locate] at hloc
    split at hloc
    · simp at hloc
    · exact .of_set (at?_of_free hloc)
  · simp at h
  · simp at h
  · simp at h
  · simp at h

-- ============================================================ removing

theorem home_remove (t : FileTree) (path : String) :
    (t.remove path).home = t.home := by
  rw [remove]
  split <;> rfl

/-- Taking a folder away leaves the files outside it. -/
theorem fileAt?_remove {path : String} {p : List String}
    (h : ¬t.placeOf path <+: p) :
    (t.remove path).fileAt? p = t.fileAt? p := by
  refine fileAt?_congr ?_
  rw [remove]
  split
  · rename_i place entry hloc
    have hplace : t.placeOf path = place := by
      refine placeOf_of_locate ?_
      rw [hloc]
      rfl
    have hprefix : place.isPrefixOf p = false := by
      rw [← Bool.not_eq_true, List.isPrefixOf_iff_prefix, ← hplace]
      exact h
    have hsame : (fun e : List String × Entry =>
        decide ((!place.isPrefixOf e.1) = true ∧ (e.1 == p) = true))
          = fun e => e.1 == p := by
      funext e
      by_cases he : e.1 = p
      · simp [he, hprefix]
      · simp [he]
    unfold at?
    simp only [List.find?_filter, hsame]
  · rfl

/-- Of what is taken away nothing is left. -/
theorem at?_remove {path : String} {place p : List String} {entry : Entry}
    (hloc : t.locate path = .found place entry) (hplace : ¬place <+: t.home)
    (h : place <+: p) : (t.remove path).at? p = none := by
  have hhome : p.isPrefixOf t.home = false := by
    rw [← Bool.not_eq_true, List.isPrefixOf_iff_prefix]
    exact fun hp => hplace (h.trans hp)
  rw [remove, hloc, at?]
  dsimp only
  rw [if_neg (by simp [hhome]), Option.map_eq_none_iff, List.find?_eq_none]
  intro e he heq
  have hkept := (List.mem_filter.1 he).2
  rw [beq_iff_eq.1 heq, List.isPrefixOf_iff_prefix.2 h] at hkept
  cases hkept

-- ========================================================= overwriting

/-- Putting the same at a place once more changes nothing. -/
theorem set_set (t : FileTree) (place : List String) (entry : Entry) :
    (t.set place entry).set place entry = t.set place entry := by
  simp [set, List.filter_append]

/-- Names that lead to a file lead to whatever file takes its place. -/
theorem follow_set_file {start place ns : List String} {old : List UInt8}
    (h : t.follow start ns = .found place (.file old)) (bytes : List UInt8) :
    (t.set place (.file bytes)).follow start ns
      = .found place (.file bytes) := by
  have hfile := at?_of_follow h
  have hplace : ¬place <+: t.home := not_prefix_of_at? (by simp [hfile])
  have hat := at?_set hplace (.file bytes)
  induction ns generalizing start with
  | nil =>
      rw [follow] at h
      split at h
      · obtain ⟨rfl, -⟩ := Location.found.inj h
        rw [follow, hat, if_pos rfl]
      · cases h
  | cons name rest ih =>
      rw [follow] at h
      split at h
      · rename_i hfolder
        have hstart : start ≠ place := fun heq => by
          rw [heq, hfile] at hfolder
          cases hfolder
        rw [follow, hat, if_neg hstart, hfolder]
        dsimp only
        split at h
        · rename_i hdots
          rw [if_pos hdots]
          exact ih h
        · rename_i hdots
          rw [if_neg hdots]
          split at h
          · cases h
          · rename_i hshort
            rw [if_neg hshort]
            split at h
            · -- what stands there still does, or is the file
              rename_i hsome
              have hstays := (Grows.of_set hplace (.file bytes)).stays _ hsome
              rw [if_pos hstays]
              exact ih h
            · split at h <;> cases h
      · cases h
      · cases h

/-- A file that can be read in the working folder can be overwritten, and then
has what was written; writing that once more changes nothing. -/
theorem write_of_read {path : String} {old : List UInt8}
    (hhome : t.home <+: t.placeOf path) (h : t.read path = .ok old)
    (bytes : List UInt8) :
    ∃ t', t.write path bytes = .ok t' ∧ t'.read path = .ok bytes ∧
      t'.write path bytes = .ok t' := by
  obtain ⟨place, hloc⟩ := read_eq_ok_iff.1 h
  obtain ⟨hfit, hfollow⟩ := locate_eq_found_iff.1 hloc
  have hagain : (t.set place (.file bytes)).locate path
      = .found place (.file bytes) :=
    locate_eq_found_iff.2 ⟨hfit, follow_set_file hfollow bytes⟩
  have hplace : t.placeOf path = place := by
    refine placeOf_of_locate ?_
    rw [hloc]
    rfl
  have hopen : t.bar? place = none := by
    obtain ⟨inner, hinner⟩ := hhome
    rw [← hplace, ← hinner, bar?_home]
  refine ⟨t.set place (.file bytes), ?_, read_eq_ok_iff.2 ⟨place, hagain⟩, ?_⟩
  · rw [write, hloc]
    exact put_eq_ok_iff.2 ⟨hopen, rfl⟩
  · rw [write, hagain]
    exact put_eq_ok_iff.2 ⟨hopen, (set_set t place _).symm⟩

end SourceAudit.FileTree
