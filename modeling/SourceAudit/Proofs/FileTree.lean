/-
Where paths lead in a system of files, and what a walk meets.

Names are followed one after another, so a path inside a folder leads where its
inner part leads from the place of the folder (`follow_append`). What is written
differently but has the same root and names leads to the same place
(`locate_normal`), and what lies above a path that the system takes is taken as
well (`unfit?_of_shorter`). A walk below a folder meets the files of the tree
whose places continue the folder's (`mem_filesBelow`), and in a tree with one
entry for each place it meets none of them twice (`Proper.nodup_filesBelow`).
-/
import Mathlib.Data.List.Nodup
import SourceAudit.FileTree
import SourceAudit.Proofs.Path.Normal

namespace SourceAudit.FileTree

variable {t : FileTree}

-- =========================================================== following

/-- What following names finds stands at the place it gives. -/
theorem at?_of_follow {names place start : List String} {entry : Entry}
    (h : t.follow start names = .found place entry) :
    t.at? place = some entry := by
  induction names generalizing start with
  | nil =>
      rw [follow] at h
      cases hat : t.at? start with
      | none => simp [hat] at h
      | some e =>
          simp only [hat, Location.found.injEq] at h
          obtain ⟨rfl, rfl⟩ := h
          exact hat
  | cons name rest ih =>
      rw [follow] at h
      split at h
      · split at h
        · exact ih h
        · split at h
          · simp at h
          · split at h
            · exact ih h
            · split at h <;> simp at h
      · simp at h
      · simp at h

/-- Names are followed one after another: the later ones from where the earlier
ones lead, if they lead somewhere. -/
theorem follow_append (place xs ys : List String) :
    t.follow place (xs ++ ys) =
      match t.follow place xs with
      | .found p _ => t.follow p ys
      | .free p => if ys = [] then .free p else .missing
      | .missing => .missing
      | .blocked => .blocked
      | .unfit why => .unfit why := by
  induction xs generalizing place with
  | nil =>
      cases hat : t.at? place with
      | some entry => simp [follow, hat]
      | none => cases ys <;> simp [follow, hat]
  | cons name rest ih =>
      rw [List.cons_append, follow, follow]
      cases hat : t.at? place with
      | none => rfl
      | some entry =>
          cases entry with
          | file bytes => rfl
          | folder =>
              simp only
              split
              · exact ih _
              · split
                · rfl
                · split
                  · exact ih _
                  · cases rest with
                    | nil => cases ys <;> simp
                    | cons next more => rfl

-- ============================================================ locating

/-- A path that the system takes: no name holds a zero, and it is not too
long. -/
theorem unfit?_eq_none_iff {path : String} :
    unfit? path = none ↔
      (∀ n ∈ Path.names path, '\x00' ∉ n.toList) ∧
        Path.size path ≤ Path.pathLimit := by
  unfold unfit?
  split
  · rename_i hzero
    refine iff_of_false nofun ?_
    rintro ⟨hnone, -⟩
    obtain ⟨n, hn, hmem⟩ := List.any_eq_true.1 hzero
    exact hnone n hn (List.contains_iff_mem.1 hmem)
  · rename_i hzero
    have hnone : ∀ n ∈ Path.names path, '\x00' ∉ n.toList := by
      simpa using hzero
    split
    · rename_i hlong
      exact iff_of_false nofun fun h => absurd h.2 (Nat.not_le.2 hlong)
    · rename_i hlong
      exact iff_of_true rfl ⟨hnone, Nat.not_lt.1 hlong⟩

/-- More names make a path longer. -/
theorem size_le_of_prefix {ns more : List String} (h : ns <+: more) (k : Nat) :
    ns.foldl (fun n name => n + Path.bytesIn name + 1) k
      ≤ more.foldl (fun n name => n + Path.bytesIn name + 1) k := by
  obtain ⟨rest, rfl⟩ := h
  rw [List.foldl_append]
  generalize ns.foldl (fun n name => n + Path.bytesIn name + 1) k = size
  induction rest generalizing size with
  | nil => exact Nat.le_refl size
  | cons name rest ih =>
      exact Nat.le_trans (Nat.le_trans (Nat.le_add_right size _)
        (Nat.le_add_right _ 1)) (ih _)

/-- What lies above a path that the system takes is taken as well. -/
theorem unfit?_of_shorter {path longer : String}
    (hroot : Path.root path = Path.root longer)
    (hnames : Path.names path <+: Path.names longer)
    (h : unfit? longer = none) : unfit? path = none := by
  obtain ⟨hzero, hsize⟩ := unfit?_eq_none_iff.1 h
  refine unfit?_eq_none_iff.2 ⟨fun n hn => hzero n (hnames.subset hn), ?_⟩
  refine Nat.le_trans ?_ hsize
  rw [Path.size, Path.size, hroot]
  exact size_le_of_prefix hnames _

theorem start_eq_of_root {path other : String}
    (h : Path.root path = Path.root other) : t.start path = t.start other := by
  rw [start, start, h]

/-- Following a path that the system takes. -/
theorem locate_of_fit {path : String} (h : unfit? path = none) :
    t.locate path = t.follow (t.start path) (Path.names path) := by
  rw [locate, h]

/-- What is found at a path is found by following its names. -/
theorem locate_eq_found_iff {path : String} {place : List String}
    {entry : Entry} :
    t.locate path = .found place entry ↔ unfit? path = none ∧
      t.follow (t.start path) (Path.names path) = .found place entry := by
  rw [locate]
  cases unfit? path with
  | none => simp
  | some why => simp

/-- A path and its plain form lead to the same place. -/
@[simp] theorem locate_normal (path : String) :
    t.locate (Path.normal path) = t.locate path := by
  have hfit : unfit? (Path.normal path) = unfit? path := by
    rw [unfit?, unfit?, Path.size, Path.size, Path.names_normal,
      Path.root_normal]
  rw [locate, locate, hfit, start_eq_of_root (Path.root_normal path),
    Path.names_normal]

/-- What can be found inside a path is found in a folder. -/
theorem isFolder_of_exists_join {folder inner : String}
    (hroot : Path.root inner = "") (hinner : Path.names inner ≠ [])
    (h : t.exists? (Path.join folder inner) = true) :
    t.isFolder folder = true := by
  have hjoined := Path.root_join folder hroot
  have hnames := Path.names_join folder hroot
  obtain ⟨place, entry, hfound⟩ : ∃ place entry,
      t.locate (Path.join folder inner) = .found place entry := by
    unfold exists? entry? at h
    split at h
    · exact ⟨_, _, ‹_›⟩
    · simp at h
  obtain ⟨hfit, hfollow⟩ := locate_eq_found_iff.1 hfound
  have hfit' : unfit? folder = none :=
    unfit?_of_shorter hjoined.symm (hnames ▸ List.prefix_append _ _) hfit
  rw [start_eq_of_root hjoined, hnames, follow_append] at hfollow
  unfold isFolder entry?
  rw [locate_of_fit hfit']
  cases hloc : t.follow (t.start folder) (Path.names folder) with
  | found place' entry' =>
      cases entry' with
      | folder => rfl
      | file bytes =>
          obtain ⟨name, rest, hsplit⟩ := List.exists_cons_of_ne_nil hinner
          have hblocked : t.follow place' (Path.names inner) = .blocked := by
            simp [hsplit, follow, at?_of_follow hloc]
          simp [hloc, hblocked] at hfollow
  | free place' => simp [hloc, hinner] at hfollow
  | missing => simp [hloc] at hfollow
  | blocked => simp [hloc] at hfollow
  | unfit why => simp [hloc] at hfollow

/-- A file is no folder. -/
theorem not_isFolder_of_isFile {path : String} (h : t.isFile path = true) :
    t.isFolder path = false := by
  unfold isFile at h
  unfold isFolder
  split at h
  · rename_i heq
    rw [heq]
  · simp at h

-- ============================================================= reading

/-- A file that can be read at a path. -/
theorem read_eq_ok_iff {path : String} {bytes : List UInt8} :
    t.read path = .ok bytes ↔
      ∃ place, t.locate path = .found place (.file bytes) := by
  unfold read
  cases t.locate path with
  | found place entry => cases entry <;> simp
  | free place => simp
  | missing => simp
  | blocked => simp
  | unfit why => simp

/-- A text that is read leaving out what is broken is the text of a file. -/
theorem readTextLenient_eq_ok_iff {path text : String} :
    t.readTextLenient path = .ok text
      ↔ ∃ bytes, t.read path = .ok bytes ∧ Text.decodeLenient bytes = text := by
  unfold readTextLenient
  cases t.read path with
  | error why => simp [bind, Except.bind]
  | ok bytes => simp [bind, Except.bind, pure, Except.pure]

/-- A path and its plain form have the same text. -/
theorem readTextLenient_normal {path text : String} :
    t.readTextLenient (Path.normal path) = .ok text ↔
      t.readTextLenient path = .ok text := by
  simp [readTextLenient_eq_ok_iff, read_eq_ok_iff]

/-- A text that is read strictly is the text of a file without broken bytes. -/
theorem readText_eq_ok_iff {path text : String} :
    t.readText path = .ok text ↔ ∃ bytes, t.read path = .ok bytes ∧
      Text.decode bytes = .ok text := by
  unfold readText
  cases t.read path with
  | error why => simp [bind, Except.bind]
  | ok bytes =>
      cases hdecode : Text.decode bytes with
      | error why => simp [bind, Except.bind, hdecode]
      | ok s => simp [bind, Except.bind, pure, Except.pure, hdecode]

theorem read_of_readText {path text : String} (h : t.readText path = .ok text) :
    ∃ bytes, t.read path = .ok bytes := by
  obtain ⟨bytes, hread, -⟩ := readText_eq_ok_iff.1 h
  exact ⟨bytes, hread⟩

/-- What can be read is there. -/
theorem exists?_of_read {path : String} {bytes : List UInt8}
    (h : t.read path = .ok bytes) : t.exists? path = true := by
  obtain ⟨place, hloc⟩ := read_eq_ok_iff.1 h
  simp [exists?, entry?, hloc]

/-- A file that can be read inside a path is read in a folder. -/
theorem isFolder_of_read_join {folder inner : String} {bytes : List UInt8}
    (hroot : Path.root inner = "") (hinner : Path.names inner ≠ [])
    (h : t.read (Path.join folder inner) = .ok bytes) :
    t.isFolder folder = true :=
  isFolder_of_exists_join hroot hinner (exists?_of_read h)

/-- What is not there cannot be read. -/
theorem read_of_missing {path : String} (h : t.exists? path = false) :
    ∃ why, t.read path = .error why := by
  cases hread : t.read path with
  | error why => exact ⟨why, rfl⟩
  | ok bytes => simp [exists?_of_read hread] at h

theorem readText_of_missing {path : String} (h : t.exists? path = false) :
    ∃ why, t.readText path = .error why := by
  obtain ⟨why, hread⟩ := read_of_missing h
  exact ⟨why, by simp [readText, hread, bind, Except.bind]⟩

theorem readTextLenient_of_missing {path : String}
    (h : t.exists? path = false) :
    ∃ why, t.readTextLenient path = .error why := by
  obtain ⟨why, hread⟩ := read_of_missing h
  exact ⟨why, by simp [readTextLenient, hread, bind, Except.bind]⟩

-- ============================================================= walking

/-- A file at any depth below a folder, and the path under which a walk meets
it. -/
def HoldsFile (t : FileTree) (folder path : String) : Prop :=
  ∃ place inner bytes, t.locate folder = .found place .folder ∧ inner ≠ [] ∧
    (place ++ inner, Entry.file bytes) ∈ t.entries ∧
      path = Path.join folder (written inner)

/-- Only folders hold files. -/
theorem HoldsFile.isFolder {folder path : String}
    (h : t.HoldsFile folder path) : t.isFolder folder = true := by
  obtain ⟨place, inner, bytes, hloc, -⟩ := h
  simp [FileTree.isFolder, entry?, hloc]

/-- What a walk meets below a folder: all that stands at places that continue
the folder's. -/
theorem mem_below {folder path : String} {entry : Entry} :
    (path, entry) ∈ t.below folder
      ↔ ∃ place inner, t.locate folder = .found place .folder ∧ inner ≠ [] ∧
          (place ++ inner, entry) ∈ t.entries ∧
          path = Path.join folder (written inner) := by
  unfold below
  split
  · rename_i place hloc
    rw [List.mem_mergeSort, List.mem_map]
    constructor
    · rintro ⟨⟨whole, e⟩, hmem, heq⟩
      obtain ⟨hentry, hprefix⟩ := List.mem_filter.1 hmem
      simp only [Bool.and_eq_true, List.isPrefixOf_iff_prefix, bne_iff_ne,
        ne_eq] at hprefix
      obtain ⟨⟨inner, rfl⟩, hlen⟩ := hprefix
      obtain ⟨rfl, rfl⟩ := Prod.mk.inj heq
      refine ⟨place, inner, hloc, ?_, hentry, by rw [List.drop_left]⟩
      rintro rfl
      simp at hlen
    · rintro ⟨place', inner, hfound, hinner, hentry, rfl⟩
      obtain rfl : place = place' := by simpa [hloc] using hfound
      refine ⟨(place ++ inner, entry),
        List.mem_filter.2 ⟨hentry, ?_⟩, by rw [List.drop_left]⟩
      simpa using hinner
  · rename_i hno
    constructor
    · intro h
      exact absurd h List.not_mem_nil
    · rintro ⟨place, inner, hfound, -⟩
      exact absurd hfound (hno place)

/-- What lies below a folder in the order of a walk is met as it lies. -/
theorem below_eq {folder : String} {place : List String}
    {found : List (String × Entry)}
    (hloc : t.locate folder = .found place .folder)
    (hfound : (t.entries.filter fun e =>
        place.isPrefixOf e.1 && e.1.length != place.length).map (fun e =>
          (Path.join folder (written (e.1.drop place.length)), e.2)) = found)
    (hsorted : found.Pairwise fun a b => t.meets a.1 b.1 = true) :
    t.below folder = found := by
  unfold below
  simp only [hloc]
  rw [hfound, List.mergeSort_of_pairwise hsorted]

/-- A walk meets the files below a folder. -/
theorem mem_filesBelow {folder path : String} :
    path ∈ t.filesBelow folder ↔ t.HoldsFile folder path := by
  unfold filesBelow HoldsFile
  rw [List.mem_filterMap]
  constructor
  · rintro ⟨⟨p, entry⟩, hmem, hkept⟩
    cases entry with
    | folder => simp at hkept
    | file bytes =>
        obtain rfl : p = path := by simpa using hkept
        obtain ⟨place, inner, hloc, hinner, hentry, hpath⟩ := mem_below.1 hmem
        exact ⟨place, inner, bytes, hloc, hinner, hentry, hpath⟩
  · rintro ⟨place, inner, bytes, hloc, hinner, hentry, hpath⟩
    exact ⟨(path, .file bytes),
      mem_below.2 ⟨place, inner, hloc, hinner, hentry, hpath⟩, rfl⟩

-- ======================================================== proper trees

/-- A tree as a system of files has it: one entry for each place, and places
made of names. -/
structure Proper (t : FileTree) : Prop where
  distinct : (t.entries.map Prod.fst).Nodup
  named : ∀ e ∈ t.entries, ∀ n ∈ e.1, Path.IsName n

theorem root_written {inner : List String} (h : ∀ n ∈ inner, Path.IsName n) :
    Path.root (written inner) = "" := by
  have hroot :=
    Path.root_append (r := "") (by simp [Path.roots]) (Path.head_intercalate h)
  simpa [written] using hroot

/-- Inside one folder, paths tell places apart. -/
theorem join_written_inj (folder : String) {inner other : List String}
    (hinner : ∀ n ∈ inner, Path.IsName n) (hother : ∀ n ∈ other, Path.IsName n)
    (h : Path.join folder (written inner) = Path.join folder (written other)) :
    inner = other := by
  have hnames := congrArg Path.names h
  rw [Path.names_join folder (root_written hinner),
    Path.names_join folder (root_written hother), written, written,
    Path.names_intercalate hinner, Path.names_intercalate hother] at hnames
  exact List.append_cancel_left hnames

/-- A walk through a proper tree meets no path twice. -/
theorem Proper.nodup_below (h : t.Proper) (folder : String) :
    ((t.below folder).map Prod.fst).Nodup := by
  unfold below
  split
  · rename_i place hloc
    have hentries : t.entries.Nodup := List.Nodup.of_map Prod.fst h.distinct
    refine List.Nodup.perm ?_ ((List.mergeSort_perm _ _).map Prod.fst).symm
    rw [List.map_map]
    refine List.Nodup.map_on ?_ (hentries.filter _)
    rintro ⟨whole, e⟩ hmem ⟨whole', e'⟩ hmem' heq
    obtain ⟨hentry, hbelow⟩ := List.mem_filter.1 hmem
    obtain ⟨hentry', hbelow'⟩ := List.mem_filter.1 hmem'
    simp only [Bool.and_eq_true, List.isPrefixOf_iff_prefix] at hbelow hbelow'
    obtain ⟨⟨inner, rfl⟩, -⟩ := hbelow
    obtain ⟨⟨inner', rfl⟩, -⟩ := hbelow'
    simp only [Function.comp_apply, List.drop_left] at heq
    have hinner : inner = inner' := by
      refine join_written_inj folder (fun n hn => ?_) (fun n hn => ?_) heq
      · exact h.named _ hentry n (List.mem_append_right place hn)
      · exact h.named _ hentry' n (List.mem_append_right place hn)
    subst hinner
    exact List.inj_on_of_nodup_map h.distinct hentry hentry' rfl
  · exact List.nodup_nil

theorem Proper.nodup_filesBelow (h : t.Proper) (folder : String) :
    (t.filesBelow folder).Nodup := by
  have hsub :
      (t.filesBelow folder).Sublist ((t.below folder).map Prod.fst) := by
    unfold filesBelow
    induction t.below folder with
    | nil => exact List.Sublist.refl []
    | cons e rest ih =>
        obtain ⟨path, entry⟩ := e
        cases entry with
        | folder => exact ih.cons path
        | file bytes => exact ih.cons_cons path
  exact (h.nodup_below folder).sublist hsub

end SourceAudit.FileTree
