/-
When a file can be saved under a path.

To save a file, the folders on its way are made and the file is written. The
names of a path lead past places, and all that can go wrong shows in the names
and the places: a name is too long, a file stands where a folder is needed or
none may be made there (`Passable`), or a folder stands at the last place, which
may be one that has just been made. If none of that is the case, the places
before the last are folders afterwards, the last one is the file, and nothing
else has changed (`save_cases`). What has been saved decides about what is still
to be saved only by the places that it takes up (`takes_saved_iff`), so whether
many files can be saved one after another can be said of the system as it was
before the first of them (`canHold_cons_iff`).
-/
import SourceAudit.Proofs.FileTree.Writing

namespace SourceAudit.FileTree

open SourceAudit.Path (onward passed)

variable {t t' : FileTree}

-- ============================================================= folders

def HasFile (t : FileTree) (place : List String) : Prop :=
  ∃ bytes, t.at? place = some (.file bytes)

def HasFolder (t : FileTree) (place : List String) : Prop :=
  t.at? place = some .folder

theorem HasFolder.not_hasFile {place : List String} (h : t.HasFolder place) :
    ¬t.HasFile place := by
  rintro ⟨bytes, hfile⟩
  rw [h] at hfile
  cases hfile

theorem HasFolder.not_prefix {place : List String} (h : ¬t.HasFolder place) :
    ¬place <+: t.home :=
  not_prefix_of_at? h

/-- A path sets out from the working folder or from the root. -/
theorem hasFolder_of_prefix_start {path : String} {p : List String}
    (h : p <+: t.start path) : t.HasFolder p := by
  rw [start] at h
  split at h
  · exact at?_of_above h
  · exact at?_of_above (h.trans (List.nil_prefix))

-- ============================================================= passing

/-- Names can be followed past places, missing folders being made: no name is
too long, no file stands in the way, and where nothing stands the system does
not bar a folder. -/
structure Passable (t : FileTree) (ns : List String)
    (places : List (List String)) : Prop where
  short : ∀ n ∈ ns, Path.isOverlong n = false
  noFile : ∀ p ∈ places, ¬t.HasFile p
  opened : ∀ p ∈ places, t.at? p = none → t.bar? p = none

section Passable

variable {ns : List String} {places : List (List String)}

/-- A folder that is there can be passed. -/
theorem passable_cons_iff {place : List String} (hplace : t.HasFolder place)
    (name : String) :
    t.Passable (name :: ns) (place :: places) ↔
      Path.isOverlong name = false ∧ t.Passable ns places := by
  have hthere : ¬t.at? place = none := by
    rw [hplace]
    simp
  constructor
  · rintro ⟨hshort, hfile, hopen⟩
    rw [List.forall_mem_cons] at hshort hfile hopen
    exact ⟨hshort.1, hshort.2, hfile.2, hopen.2⟩
  · rintro ⟨hname, hshort, hfile, hopen⟩
    exact ⟨List.forall_mem_cons.2 ⟨hname, hshort⟩,
      List.forall_mem_cons.2 ⟨hplace.not_hasFile, hfile⟩,
      List.forall_mem_cons.2 ⟨fun h => absurd h hthere, hopen⟩⟩

/-- A folder that may be made can be made first. -/
theorem passable_set_iff {place : List String} (hnone : t.at? place = none)
    (hopen : t.bar? place = none) :
    (t.set place .folder).Passable ns places ↔ t.Passable ns places := by
  have hat := at?_set (not_prefix_of_none hnone) .folder
  have hfile (p : List String) :
      (t.set place .folder).HasFile p ↔ t.HasFile p := by
    unfold HasFile
    rw [hat]
    by_cases hp : p = place
    · simp [hp, hnone]
    · simp [hp]
  have hbar (p : List String) :
      ((t.set place .folder).at? p = none → t.bar? p = none) ↔
        (t.at? p = none → t.bar? p = none) := by
    rw [hat]
    by_cases hp : p = place
    · simp [hp, hopen]
    · simp [hp]
  constructor
  · rintro ⟨hshort, hnoFile, hopened⟩
    exact ⟨hshort, fun p hp => mt (hfile p).2 (hnoFile p hp),
      fun p hp => (hbar p).1 (hopened p hp)⟩
  · rintro ⟨hshort, hnoFile, hopened⟩
    exact ⟨hshort, fun p hp => mt (hfile p).1 (hnoFile p hp),
      fun p hp => (hbar p).2 (hopened p hp)⟩

end Passable

/-- From one system to another, places have become folders, and nothing else has
changed. -/
structure Cleared (t : FileTree) (places : List (List String))
    (t' : FileTree) : Prop where
  grows : t.Grows t'
  at? : ∀ p, t'.at? p = if p ∈ places then some .folder else t.at? p

namespace Cleared

variable {places : List (List String)} {place : List String}

/-- Folders that are all there are cleared already. -/
theorem of_folders (h : ∀ p ∈ places, t.HasFolder p) : t.Cleared places t := by
  refine ⟨.refl t, fun p => ?_⟩
  split
  · exact h p ‹_›
  · rfl

/-- A folder that is there already can be counted among those that are
cleared. -/
theorem cons (h : t.Cleared places t') (hplace : t.HasFolder place) :
    t.Cleared (place :: places) t' := by
  refine ⟨h.grows, fun p => ?_⟩
  rw [h.at? p]
  by_cases hp : p = place
  · subst hp
    rw [if_pos List.mem_cons_self, hplace, ite_self]
  · simp only [List.mem_cons, hp, false_or]

/-- So can a folder that has just been made. -/
theorem of_set (h : (t.set place .folder).Cleared places t')
    (hnone : t.at? place = none) (hmem : place ∈ places) :
    t.Cleared places t' := by
  have hplace := not_prefix_of_none hnone
  refine ⟨(Grows.of_set hplace _).trans h.grows, fun p => ?_⟩
  rw [h.at? p]
  by_cases hp : p ∈ places
  · rw [if_pos hp, if_pos hp]
  · have hother : p ≠ place := fun heq => hp (heq ▸ hmem)
    rw [if_neg hp, if_neg hp, at?_set hplace, if_neg hother]

theorem hasFolder_iff (h : t.Cleared places t') (place : List String) :
    t'.HasFolder place ↔ place ∈ places ∨ t.HasFolder place := by
  rw [HasFolder, h.at?]
  by_cases hmem : place ∈ places
  · simp [hmem]
  · simp [hmem, HasFolder]

end Cleared

/-- What comes of making a way past places: they are cleared if they can be
passed, and else it fails. -/
def Clears (t : FileTree) (ns : List String) (places : List (List String))
    (made : FileTree × Outcome Unit) : Prop :=
  (t.Passable ns places ∧ ∃ t', made = (t', .ok ()) ∧ t.Cleared places t') ∨
    (¬t.Passable ns places ∧ ∃ t' f, made = (t', .error f))

namespace Clears

variable {ns : List String} {places : List (List String)} {place : List String}
  {made : FileTree × Outcome Unit}

/-- Past folders that are all there nothing has to be made. -/
theorem of_folders (hshort : ∀ n ∈ ns, Path.isOverlong n = false)
    (h : ∀ p ∈ places, t.HasFolder p) : t.Clears ns places (t, .ok ()) := by
  refine .inl ⟨⟨hshort, fun p hp => (h p hp).not_hasFile, fun p hp hnone => ?_⟩,
    t, rfl, .of_folders h⟩
  rw [h p hp] at hnone
  cases hnone

/-- A folder that is there can be passed first. -/
theorem cons (h : t.Clears ns places made) (hplace : t.HasFolder place)
    {name : String} (hname : Path.isOverlong name = false) :
    t.Clears (name :: ns) (place :: places) made := by
  rw [Clears, passable_cons_iff hplace]
  rcases h with ⟨hpass, t', hmade, hcleared⟩ | ⟨hnot, hfails⟩
  · exact .inl ⟨⟨hname, hpass⟩, t', hmade, hcleared.cons hplace⟩
  · exact .inr ⟨fun h => hnot h.2, hfails⟩

/-- A folder that may be made can be made first. -/
theorem of_set (h : (t.set place .folder).Clears ns places made)
    (hnone : t.at? place = none) (hopen : t.bar? place = none)
    (hmem : place ∈ places) : t.Clears ns places made := by
  rw [Clears, ← passable_set_iff hnone hopen]
  rcases h with ⟨hpass, t', hmade, hcleared⟩ | hfails
  · exact .inl ⟨hpass, t', hmade, hcleared.of_set hnone hmem⟩
  · exact .inr hfails

end Clears

/-- Making a way clears the places it leads past, if they can be passed. -/
theorem clears_makeWay (root : String) {place : List String}
    (hplace : ∀ p, p <+: place → t.HasFolder p) (before ns : List String) :
    t.Clears ns (passed place ns) (t.makeWay root place before ns) := by
  have hhere : t.HasFolder place := hplace place (List.prefix_refl place)
  induction ns generalizing t place before with
  | nil =>
      exact .of_folders (fun n hn => absurd hn List.not_mem_nil)
        fun p hp => List.mem_singleton.1 hp ▸ hhere
  | cons name rest ih =>
      rw [makeWay, passed]
      by_cases hname : name = ".."
      · have hback : ∀ p, p <+: place.dropLast → t.HasFolder p :=
          fun p hp => hplace p (hp.trans (List.dropLast_prefix place))
        rw [if_pos (by simpa using hname), hname, Path.onward_dots]
        exact (ih hback _ (hback _ (List.prefix_refl _))).cons hhere (by decide)
      · rw [if_neg (by simpa using hname), Path.onward_name hname]
        cases hshort : Path.isOverlong name with
        | true =>
            refine .inr ⟨fun h => ?_, _, _, rfl⟩
            rw [h.short name List.mem_cons_self] at hshort
            cases hshort
        | false =>
            rw [if_neg Bool.false_ne_true]
            refine .cons ?_ hhere hshort
            have hinner : place ++ [name] ∈ passed (place ++ [name]) rest :=
              Path.start_mem_passed _ rest
            cases hat : t.at? (place ++ [name]) with
            | none =>
                dsimp only
                rw [put]
                cases hbar : t.bar? (place ++ [name]) with
                | some why =>
                    refine .inr ⟨fun h => ?_, _, _, rfl⟩
                    rw [h.opened _ hinner hat] at hbar
                    cases hbar
                | none =>
                    have hmade := at?_set (not_prefix_of_none hat) .folder
                    have hon : ∀ p, p <+: place ++ [name] →
                        (t.set (place ++ [name]) .folder).HasFolder p := by
                      intro p hp
                      rw [HasFolder, hmade]
                      split
                      · rfl
                      · exact hplace p
                          ((List.prefix_concat_iff.1 hp).resolve_left ‹_›)
                    exact (ih hon _ (hon _ (List.prefix_refl _))).of_set hat
                      hbar hinner
            | some entry =>
                cases entry with
                | file bytes =>
                    exact .inr ⟨fun h => h.noFile _ hinner ⟨bytes, hat⟩,
                      _, _, rfl⟩
                | folder =>
                    have hon : ∀ p, p <+: place ++ [name] → t.HasFolder p := by
                      intro p hp
                      rcases List.prefix_concat_iff.1 hp with rfl | hp
                      · exact hat
                      · exact hplace p hp
                    exact ih hon _ hat

/-- What following names says about them and the places they lead past. -/
def Location.Tells (t : FileTree) (ns : List String)
    (places : List (List String)) : Location → Prop
  | .found _ .folder =>
    (∀ n ∈ ns, Path.isOverlong n = false) ∧ ∀ p ∈ places, t.HasFolder p
  | .found _ (.file _) => ∃ p ∈ places, t.HasFile p
  | .blocked => ∃ p ∈ places, t.HasFile p
  | .unfit _ => ∃ n ∈ ns, Path.isOverlong n = true
  | .free _ => True
  | .missing => True

theorem Location.Tells.cons {ns : List String} {places : List (List String)}
    {place : List String} {name : String} {l : Location}
    (h : l.Tells t ns places) (hplace : t.HasFolder place)
    (hname : Path.isOverlong name = false) :
    l.Tells t (name :: ns) (place :: places) := by
  have hmore (hfile : ∃ p ∈ places, t.HasFile p) :
      ∃ p ∈ place :: places, t.HasFile p := by
    obtain ⟨p, hp, hfile⟩ := hfile
    exact ⟨p, List.mem_cons_of_mem place hp, hfile⟩
  cases l with
  | found q entry =>
      cases entry with
      | file bytes => exact hmore h
      | folder =>
          exact ⟨List.forall_mem_cons.2 ⟨hname, h.1⟩,
            List.forall_mem_cons.2 ⟨hplace, h.2⟩⟩
  | blocked => exact hmore h
  | unfit why =>
      obtain ⟨n, hn, hlong⟩ := h
      exact ⟨n, List.mem_cons_of_mem name hn, hlong⟩
  | free q => trivial
  | missing => trivial

theorem tells_follow (t : FileTree) (place ns : List String) :
    (t.follow place ns).Tells t ns (passed place ns) := by
  induction ns generalizing place with
  | nil =>
      rw [follow]
      cases hat : t.at? place with
      | none => trivial
      | some entry =>
          cases entry with
          | file bytes =>
              exact ⟨place, List.mem_singleton_self place, bytes, hat⟩
          | folder =>
              exact ⟨fun n hn => absurd hn List.not_mem_nil,
                fun p hp => List.mem_singleton.1 hp ▸ hat⟩
  | cons name rest ih =>
      rw [follow, passed]
      cases hat : t.at? place with
      | none => trivial
      | some entry =>
          cases entry with
          | file bytes => exact ⟨place, List.mem_cons_self, bytes, hat⟩
          | folder =>
              dsimp only
              by_cases hname : name = ".."
              · rw [if_pos (by simpa using hname), hname, Path.onward_dots]
                exact (ih _).cons hat (by decide)
              · rw [if_neg (by simpa using hname), Path.onward_name hname]
                cases hshort : Path.isOverlong name with
                | true => exact ⟨name, List.mem_cons_self, hshort⟩
                | false =>
                    rw [if_neg Bool.false_ne_true]
                    split
                    · exact (ih _).cons hat hshort
                    · split <;> trivial

/-- Making a folder under a path that the system takes clears the places it
leads past, if they can be passed. -/
theorem clears_makeFolder {path : String} (hfit : unfit? path = none) :
    t.Clears (Path.names path) (passed (t.start path) (Path.names path))
      (t.makeFolder path) := by
  have hmade := clears_makeWay (Path.root path)
    (fun p hp => @hasFolder_of_prefix_start t path p hp) [] (Path.names path)
  have htells := tells_follow t (t.start path) (Path.names path)
  rw [makeFolder, locate_of_fit hfit]
  cases hfollow : t.follow (t.start path) (Path.names path) with
  | found q entry =>
      rw [hfollow] at htells
      cases entry with
      | file bytes =>
          obtain ⟨p, hp, hfile⟩ := htells
          exact .inr ⟨fun h => h.noFile p hp hfile, _, _, rfl⟩
      | folder => exact .of_folders htells.1 htells.2
  | blocked =>
      rw [hfollow] at htells
      obtain ⟨p, hp, hfile⟩ := htells
      exact .inr ⟨fun h => h.noFile p hp hfile, _, _, rfl⟩
  | unfit why =>
      rw [hfollow] at htells
      obtain ⟨n, hn, hlong⟩ := htells
      refine .inr ⟨fun h => ?_, _, _, rfl⟩
      rw [h.short n hn] at hlong
      cases hlong
  | free q => exact hmade
  | missing => exact hmade

-- ============================================================= writing

/-- Names that lead past folders lead on from the last of them. -/
theorem follow_of_folders {place ms : List String} (rest : List String)
    (hshort : ∀ n ∈ ms, Path.isOverlong n = false)
    (h : ∀ p ∈ passed place ms, t.HasFolder p) :
    t.follow place (ms ++ rest) = t.follow (ms.foldl onward place) rest := by
  induction ms generalizing place with
  | nil => rfl
  | cons name more ih =>
      rw [passed, List.forall_mem_cons] at h
      rw [List.forall_mem_cons] at hshort
      obtain ⟨hplace, hmore⟩ := h
      rw [List.cons_append, List.foldl_cons, ← ih hshort.2 hmore, follow,
        hplace]
      dsimp only
      by_cases hname : name = ".."
      · rw [if_pos (by simpa using hname), hname, Path.onward_dots]
      · rw [Path.onward_name hname] at hmore ⊢
        have hinner : t.at? (place ++ [name]) = some .folder :=
          hmore _ (Path.start_mem_passed _ more)
        rw [if_neg (by simpa using hname), hshort.1,
          if_neg Bool.false_ne_true, hinner]
        rfl

section Writing

variable {path last : String} {ms : List String} (hfit : unfit? path = none)
  (hnames : Path.names path = ms ++ [last])
  (hshort : ∀ n ∈ ms, Path.isOverlong n = false)
  (h : ∀ p ∈ passed (t.start path) ms, t.HasFolder p)

include hfit hnames hshort h

/-- Where all folders on its way are there, a path leads to what stands at its
place, unless its last name is too long. -/
theorem locate_of_folders : t.locate path
    = if Path.isOverlong last then .unfit .nameTooLong
      else (t.at? (t.placeOf path)).elim (.free (t.placeOf path))
        (.found (t.placeOf path)) := by
  -- every folder above the place has been passed
  have habove {p : List String} (hp : p <+: ms.foldl onward (t.start path)) :
      t.HasFolder p := by
    rcases Path.mem_passed_of_prefix hp with hmem | hstart
    · exact h p hmem
    · exact hasFolder_of_prefix_start hstart
  have hlast : t.at? (ms.foldl onward (t.start path)) = some .folder :=
    habove (List.prefix_refl _)
  have hplace : t.placeOf path
      = onward (ms.foldl onward (t.start path)) last := by
    rw [placeOf, hnames, List.foldl_append]
    rfl
  rw [locate_of_fit hfit, hplace, hnames, follow_of_folders [last] hshort h]
  by_cases hdots : last = ".."
  · have hback : t.at? (ms.foldl onward (t.start path)).dropLast
        = some .folder := habove (List.dropLast_prefix _)
    have hoverlong : Path.isOverlong ".." = false := by decide
    rw [hdots, Path.onward_dots, follow, hlast]
    dsimp only
    rw [if_pos (beq_self_eq_true _), follow, hback, hoverlong]
    rfl
  · rw [Path.onward_name hdots]
    cases hlong : Path.isOverlong last with
    | true =>
        rw [follow, hlast]
        dsimp only
        rw [if_neg (by simpa using hdots), if_pos hlong, if_pos rfl]
    | false =>
        rw [if_neg Bool.false_ne_true]
        exact follow_name hlast hdots hlong

/-- Then a file is written to its place, unless its name is too long, a folder
stands there or the system bars it. -/
theorem write_cases (bytes : List UInt8) :
    (Path.isOverlong last = false ∧ ¬t.HasFolder (t.placeOf path) ∧
        t.bar? (t.placeOf path) = none ∧
        t.write path bytes = .ok (t.set (t.placeOf path) (.file bytes))) ∨
      (¬(Path.isOverlong last = false ∧ ¬t.HasFolder (t.placeOf path) ∧
        t.bar? (t.placeOf path) = none) ∧
        ∃ f, t.write path bytes = .error f) := by
  have hlocate := locate_of_folders hfit hnames hshort h
  cases hlong : Path.isOverlong last with
  | true =>
      rw [hlong, if_pos rfl] at hlocate
      rw [write, hlocate]
      exact .inr ⟨fun h => Bool.noConfusion h.1, _, rfl⟩
  | false =>
      rw [hlong, if_neg Bool.false_ne_true] at hlocate
      by_cases hfolder : t.at? (t.placeOf path) = some .folder
      · rw [write, hlocate, hfolder]
        exact .inr ⟨fun h => h.2.1 hfolder, _, rfl⟩
      -- a free name and a file are written alike
      have hput : t.write path bytes
          = t.put path (t.placeOf path) (.file bytes) := by
        rw [write, hlocate]
        cases hat : t.at? (t.placeOf path) with
        | none => rfl
        | some entry =>
            cases entry with
            | file old => rfl
            | folder => exact absurd hat hfolder
      rw [hput, put]
      cases t.bar? (t.placeOf path) with
      | some why => exact .inr ⟨fun h => Option.some_ne_none why h.2.2, _, rfl⟩
      | none => exact .inl ⟨rfl, hfolder, rfl, rfl⟩

end Writing

-- ============================================================== saving

/-- The places of the folders that a path leads through. -/
def foldersOf (t : FileTree) (path : String) : List (List String) :=
  passed (t.start path) (Path.names path).dropLast

theorem Grows.foldersOf (h : t.Grows t') (path : String) :
    t'.foldersOf path = t.foldersOf path := by
  rw [FileTree.foldersOf, FileTree.foldersOf, h.start]

/-- A file can be saved under a path: the system takes the path, it can be
followed, and its place is not barred, is no folder and does not become one. -/
structure Takes (t : FileTree) (path : String) : Prop where
  fit : unfit? path = none
  way : t.Passable (Path.names path) (t.foldersOf path)
  free : ¬t.HasFolder (t.placeOf path)
  opened : t.bar? (t.placeOf path) = none
  beyond : t.placeOf path ∉ t.foldersOf path

/-- From one system to another a file has been saved: the folders on its way are
there, the file stands at its place, and nothing else has changed. -/
structure Saved (t : FileTree) (path : String) (bytes : List UInt8)
    (t' : FileTree) : Prop where
  grows : t.Grows t'
  at? : ∀ p, t'.at? p = if p = t.placeOf path then some (.file bytes)
    else if p ∈ t.foldersOf path then some .folder else t.at? p

/-- Makes the folders on the way of a file and writes it. -/
def save (t : FileTree) (path : String) (bytes : List UInt8) :
    Outcome FileTree :=
  match t.makeFolder (Path.parent path) with
  | (made, .ok ()) => made.write path bytes
  | (_, .error f) => .error f

/-- A path without names leads to a folder. -/
theorem save_of_nameless {path : String} (h : Path.names path = [])
    (bytes : List UInt8) :
    ¬t.Takes path ∧ ∃ f, t.save path bytes = .error f := by
  have hstart : t.at? (t.start path) = some .folder :=
    hasFolder_of_prefix_start (List.prefix_refl _)
  have hplace : t.placeOf path = t.start path := by
    rw [placeOf, h]
    rfl
  have hlocate : t.locate path = .found (t.start path) .folder ∨
      ∃ why, t.locate path = .unfit why := by
    rw [locate, h]
    cases unfit? path with
    | some why => exact .inr ⟨why, rfl⟩
    | none =>
        rw [follow, hstart]
        exact .inl rfl
  have hparent : Path.parent path = Path.normal path := by
    rw [Path.parent, h]
  refine ⟨fun htakes => htakes.free (hplace ▸ hstart), ?_⟩
  rw [save, makeFolder, hparent, locate_normal]
  rcases hlocate with hloc | ⟨why, hloc⟩
  · rw [hloc]
    dsimp only
    rw [write, hloc]
    exact ⟨_, rfl⟩
  · rw [hloc]
    exact ⟨_, rfl⟩

/-- Nothing is saved under a path that the system does not take. -/
theorem save_of_unfit {path : String} (h : unfit? path ≠ none)
    (bytes : List UInt8) : ∃ f, t.save path bytes = .error f := by
  obtain ⟨why, hwhy⟩ := Option.ne_none_iff_exists'.1 h
  rw [save]
  rcases t.makeFolder (Path.parent path) with ⟨made, f | _⟩
  · exact ⟨f, rfl⟩
  · refine ⟨why path, ?_⟩
    dsimp only
    rw [write, locate, hwhy]

/-- What can come of saving a file: it stands there, or there was no taking
it. -/
theorem save_cases (t : FileTree) (path : String) (bytes : List UInt8) :
    (t.Takes path ∧ ∃ t', t.save path bytes = .ok t' ∧ t.Saved path bytes t') ∨
      (¬t.Takes path ∧ ∃ f, t.save path bytes = .error f) := by
  by_cases hfit : unfit? path = none
  case neg =>
    exact .inr ⟨fun h => hfit h.fit, save_of_unfit hfit bytes⟩
  by_cases hnone : Path.names path = []
  · exact .inr (save_of_nameless hnone bytes)
  obtain ⟨ms, last, hsplit⟩ : ∃ ms last, Path.names path = ms ++ [last] :=
    ⟨_, _, (List.dropLast_append_getLast hnone).symm⟩
  have hfolders : t.foldersOf path = passed (t.start path) ms := by
    rw [foldersOf, hsplit, List.dropLast_concat]
  -- all names but the last are those of the folder that is made first
  obtain ⟨hroot, hparent⟩ := Path.names_parent hsplit
  have hmake := @clears_makeFolder t (Path.parent path)
    (unfit?_of_shorter hroot (by simp [hparent, hsplit]) hfit)
  rw [hparent, start_eq_of_root hroot, ← hfolders] at hmake
  rw [save]
  rcases hmake with ⟨hpass, made, hmade, hcleared⟩ | ⟨hnot, made, f, hmade⟩
  · rw [hmade]
    dsimp only
    have hplace := hcleared.grows.placeOf path
    have hthere : ∀ p ∈ passed (made.start path) ms, made.HasFolder p := by
      intro p hp
      rw [hcleared.grows.start, ← hfolders] at hp
      exact (hcleared.hasFolder_iff p).2 (.inl hp)
    have hwrite := write_cases hfit hsplit hpass.short hthere bytes
    rw [hplace, hcleared.grows.bar?, hcleared.hasFolder_iff, not_or] at hwrite
    rcases hwrite with ⟨hshort, ⟨hbeyond, hfree⟩, hopen, hok⟩ |
      ⟨hnot, f, hfails⟩
    · refine .inl ⟨⟨hfit, ⟨?_, hpass.noFile, hpass.opened⟩, hfree, hopen,
        hbeyond⟩, _, hok, ?_⟩
      · intro n hn
        rw [hsplit, List.mem_append, List.mem_singleton] at hn
        rcases hn with hn | rfl
        · exact hpass.short n hn
        · exact hshort
      · have hhome : ¬t.placeOf path <+: made.home := by
          rw [hcleared.grows.home]
          exact HasFolder.not_prefix hfree
        refine ⟨hcleared.grows.trans (.of_set hhome _), fun p => ?_⟩
        rw [at?_set hhome, hcleared.at?]
    · refine .inr ⟨fun h => hnot ⟨?_, ⟨h.beyond, h.free⟩, h.opened⟩, f, hfails⟩
      exact h.way.short last (by simp [hsplit])
  · rw [hmade]
    refine .inr ⟨fun h => hnot ⟨fun n hn => ?_, h.way.noFile, h.way.opened⟩, f,
      rfl⟩
    exact h.way.short n (hsplit ▸ List.mem_append_left [last] hn)

section Saved

variable {path : String} {bytes : List UInt8} (htakes : t.Takes path)
  (hsaved : t.Saved path bytes t')

include htakes hsaved

theorem Saved.hasFile_iff (p : List String) :
    t'.HasFile p ↔ p = t.placeOf path ∨ t.HasFile p := by
  unfold HasFile
  rw [hsaved.at? p]
  by_cases hplace : p = t.placeOf path
  · simp [hplace]
  · by_cases hfolder : p ∈ t.foldersOf path
    · have hnone := htakes.way.noFile p hfolder
      unfold HasFile at hnone
      simp [hplace, hfolder, hnone]
    · simp [hplace, hfolder]

theorem Saved.hasFolder_iff (p : List String) :
    t'.HasFolder p ↔ p ∈ t.foldersOf path ∨ t.HasFolder p := by
  unfold HasFolder
  rw [hsaved.at? p]
  by_cases hplace : p = t.placeOf path
  · have hfree := htakes.free
    unfold HasFolder at hfree
    simp [hplace, htakes.beyond, hfree]
  · by_cases hfolder : p ∈ t.foldersOf path
    · simp [hplace, hfolder]
    · simp [hplace, hfolder]

/-- What can still be passed is what could be, less the place of the file. -/
theorem Saved.passable_iff (ns : List String) (places : List (List String)) :
    t'.Passable ns places ↔
      t.Passable ns places ∧ t.placeOf path ∉ places := by
  have hfile := Saved.hasFile_iff htakes hsaved
  constructor
  · rintro ⟨hshort, hnoFile, hopened⟩
    refine ⟨⟨hshort, fun p hp h => hnoFile p hp ((hfile p).2 (.inr h)),
      fun p hp hnone => ?_⟩, fun hmem =>
        hnoFile _ hmem ((hfile _).2 (.inl rfl))⟩
    by_cases hplace : p = t.placeOf path
    · rw [hplace]
      exact htakes.opened
    · by_cases hfolder : p ∈ t.foldersOf path
      · exact htakes.way.opened p hfolder hnone
      · rw [← hsaved.grows.bar?]
        refine hopened p hp ?_
        rw [hsaved.at?, if_neg hplace, if_neg hfolder, hnone]
  · rintro ⟨⟨hshort, hnoFile, hopened⟩, hapart⟩
    refine ⟨hshort, fun p hp h => ?_, fun p hp hnone => ?_⟩
    · rcases (hfile p).1 h with rfl | hold
      · exact hapart hp
      · exact hnoFile p hp hold
    · rw [hsaved.grows.bar?]
      refine hopened p hp ?_
      by_contra hsome
      have hstays := hsaved.grows.stays p (Option.isSome_iff_ne_none.2 hsome)
      rw [hnone] at hstays
      cases hstays

/-- Once a file is saved, another one can be saved just if it could be and
neither leads to a place that the other needs as a folder. -/
theorem takes_saved_iff (other : String) :
    t'.Takes other ↔ t.Takes other ∧ t.placeOf path ∉ t.foldersOf other ∧
      t.placeOf other ∉ t.foldersOf path := by
  have hplace := hsaved.grows.placeOf other
  have hfolders := hsaved.grows.foldersOf other
  have hbar := hsaved.grows.bar? (t.placeOf other)
  have hpass := Saved.passable_iff htakes hsaved (Path.names other)
    (t.foldersOf other)
  have hfolder := Saved.hasFolder_iff htakes hsaved (t.placeOf other)
  constructor
  · rintro ⟨hfit, hway, hfree, hopen, hbeyond⟩
    rw [hfolders, hpass] at hway
    rw [hplace, hfolder, not_or] at hfree
    rw [hplace, hbar] at hopen
    rw [hplace, hfolders] at hbeyond
    exact ⟨⟨hfit, hway.1, hfree.2, hopen, hbeyond⟩, hway.2, hfree.1⟩
  · rintro ⟨⟨hfit, hway, hfree, hopen, hbeyond⟩, hpast, hbeside⟩
    refine ⟨hfit, ?_, ?_, ?_, ?_⟩
    · rw [hfolders, hpass]
      exact ⟨hway, hpast⟩
    · rw [hplace, hfolder, not_or]
      exact ⟨hbeside, hfree⟩
    · rw [hplace, hbar]
      exact hopen
    · rw [hplace, hfolders]
      exact hbeyond

end Saved

-- ========================================================== many files

/-- Files can be saved under paths, one after another: under each of them one
can be, and none leads to a place that one of them needs as a folder. -/
structure CanHold (t : FileTree) (paths : List String) : Prop where
  takes : ∀ path ∈ paths, t.Takes path
  apart : ∀ path ∈ paths, ∀ other ∈ paths,
    t.placeOf other ∉ t.foldersOf path

theorem canHold_nil (t : FileTree) : t.CanHold [] :=
  ⟨nofun, nofun⟩

/-- Once a file is saved, the others can be saved just if all of them could. -/
theorem canHold_cons_iff {path : String} {paths : List String}
    {bytes : List UInt8} (htakes : t.Takes path)
    (hsaved : t.Saved path bytes t') :
    t.CanHold (path :: paths) ↔ t'.CanHold paths := by
  have hother := takes_saved_iff htakes hsaved
  have hsame (q other : String) : t'.placeOf other ∉ t'.foldersOf q ↔
      t.placeOf other ∉ t.foldersOf q := by
    rw [hsaved.grows.placeOf, hsaved.grows.foldersOf]
  constructor
  · intro h
    refine ⟨fun q hq => (hother q).2 ⟨h.takes q (.tail _ hq),
      h.apart q (.tail _ hq) path List.mem_cons_self,
      h.apart path List.mem_cons_self q (.tail _ hq)⟩,
      fun q hq other ho => (hsame q other).2 ?_⟩
    exact h.apart q (.tail _ hq) other (.tail _ ho)
  · intro h
    have hleft (q : String) (hq : q ∈ paths) := (hother q).1 (h.takes q hq)
    refine ⟨List.forall_mem_cons.2 ⟨htakes, fun q hq => (hleft q hq).1⟩, ?_⟩
    intro q hq other ho
    rcases List.mem_cons.1 hq with rfl | hrest
    · rcases List.mem_cons.1 ho with rfl | hrest'
      · exact htakes.beyond
      · exact (hleft other hrest').2.2
    · rcases List.mem_cons.1 ho with rfl | hrest'
      · exact (hleft q hrest).2.1
      · exact (hsame q other).1 (h.apart q hrest other hrest')

end SourceAudit.FileTree
