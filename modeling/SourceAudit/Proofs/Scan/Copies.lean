/-
What the outside programs are given to look at.

Two programs are run on a folder of their own, into which the files they take
are copied one after another, each under its name alone. Copying one more file
puts its text at its name and changes nothing else (`CopiesOf.step`), so in the
end each name holds the text of the last file of that name (`CopiesOf.run`).
Files that share a name share a copy, and all texts are there exactly if such
files have the same text (`CopiesOf.complete_iff`). If one of the files cannot
be read as text, nothing is run.
-/
import SourceAudit.Proofs.FileTree.Writing
import SourceAudit.Proofs.Text.Encoding
import SourceAudit.Scan.Tool
import Mathlib.Data.List.Dedup

namespace SourceAudit

-- ============================================================ one name

namespace Path

/-- A path with an ending has a name, and that leads nowhere else. -/
theorem isName_of_ending {path : String} (h : ending path ≠ "") :
    IsName (name path) ∧ name path ≠ ".." ∧ name path ∈ names path := by
  have hname : name path ≠ "" ∧ name path ≠ ".." := by
    refine ⟨fun hempty => h ?_, fun hdots => h ?_⟩
    · rw [ending, hempty]
      rfl
    · rw [ending, hdots]
      rfl
  have hmem : name path ∈ names path := by
    unfold name at hname ⊢
    cases hlast : (names path).getLast? with
    | none =>
        rw [List.getLastD_eq_getLast?, hlast] at hname
        exact absurd rfl hname.1
    | some n =>
        rw [List.getLastD_eq_getLast?, hlast]
        exact List.mem_of_getLast? hlast
  exact ⟨isName_of_mem_names hmem, hname.2, hmem⟩

/-- A name takes its part of a path's size. -/
theorem bytesIn_lt_size {path n : String} (h : n ∈ names path) :
    bytesIn n < size path := by
  suffices hsum : ∀ (ns : List String) (k : Nat), n ∈ ns →
      bytesIn n < ns.foldl (fun k name =>
        k + bytesIn name + 1) k from hsum _ _ h
  intro ns
  induction ns with
  | nil => simp
  | cons first rest ih =>
      intro k hn
      rcases List.mem_cons.1 hn with rfl | hn
      · have hgrow :=
          FileTree.size_le_of_prefix (List.nil_prefix (l := rest)) (k +
              bytesIn n + 1)
        rw [List.foldl_nil] at hgrow
        exact Nat.lt_of_lt_of_le (by omega) hgrow
      · exact ih _ hn

end Path

namespace FileTree

variable {t : FileTree} {n : String}

/-- Names that lead to something are not too long. -/
theorem short_of_follow {start ns place : List String} {entry : Entry}
    (h : t.follow start ns = .found place entry) : ∀ m ∈ ns, Path.isOverlong m
      = false := by
  induction ns generalizing start with
  | nil => simp
  | cons name rest ih =>
      rw [follow] at h
      split at h
      · split at h
        · rename_i hdots
          refine List.forall_mem_cons.2 ⟨?_, ih h⟩
          rw [beq_iff_eq.1 hdots]
          decide
        · split at h
          · cases h
          · rename_i hshort
            split at h
            · exact List.forall_mem_cons.2 ⟨by simpa using hshort, ih h⟩
            · split at h <;> cases h
      · cases h
      · cases h

/-- The name of a file that can be read is fit for another file. -/
theorem isFit_of_read {path : String} (hending : Path.ending path ≠ "")
    {bytes : List UInt8} (h : t.read path = .ok bytes) :
    IsFit (Path.name path) := by
  obtain ⟨hname, hdots, hmem⟩ := Path.isName_of_ending hending
  obtain ⟨place, hloc⟩ := read_eq_ok_iff.1 h
  obtain ⟨hfit, hfollow⟩ := locate_eq_found_iff.1 hloc
  obtain ⟨hzero, hsize⟩ := unfit?_eq_none_iff.1 hfit
  refine ⟨hname, hdots, unfit?_eq_none_iff.2 ⟨?_, ?_⟩,
    short_of_follow hfollow _ hmem⟩
  · rw [Path.names_of_isName hname]
    exact List.forall_mem_singleton.2 (hzero _ hmem)
  · rw [Path.size, Path.names_of_isName hname, Path.root_of_isName hname]
    have hpart := Path.bytesIn_lt_size hmem
    simp only [List.foldl_cons, List.foldl_nil, String.length_empty]
    omega

/-- A file can be written under a name that no folder has. -/
theorem write_name (h : IsFit n) (hfree : t.at? (t.home ++ [n]) ≠ some .folder)
    (bytes : List UInt8) :
    t.write n bytes = .ok (t.set (t.home ++ [n]) (.file bytes)) := by
  have hput : t.put n (t.home ++ [n]) (.file bytes)
      = .ok (t.set (t.home ++ [n]) (.file bytes)) :=
    put_eq_ok_iff.2 ⟨t.bar?_home [n], rfl⟩
  rw [write, t.locate_name h]
  cases hat : t.at? (t.home ++ [n]) with
  | none => exact hput
  | some entry =>
      cases entry with
      | folder => exact absurd hat hfree
      | file old => exact hput

/-- The text of a file under a name. -/
theorem readText_name (h : IsFit n) {bytes : List UInt8}
    (hfile : t.fileAt? (t.home ++ [n]) = some bytes) {text : String}
    (htext : Text.decode bytes = .ok text) : t.readText n = .ok text := by
  have hat : t.at? (t.home ++ [n]) = some (.file bytes) := by
    unfold fileAt? at hfile
    split at hfile
    · rename_i heq
      rw [heq, Option.some.inj hfile]
    · cases hfile
  refine readText_eq_ok_iff.2 ⟨bytes,
    read_eq_ok_iff.2 ⟨t.home ++ [n], ?_⟩, htext⟩
  rw [t.locate_name h, hat]
  rfl

/-- The bytes that a copy of a file has, if it can be read as text. -/
def copyOf? (t : FileTree) (path : String) : Option (List UInt8) :=
  match t.readText path with
  | .ok text => some (Text.encode text)
  | .error _ => none

theorem copyOf?_of_readText {path text : String}
    (h : t.readText path = .ok text) :
    t.copyOf? path = some (Text.encode text) := by
  unfold copyOf?
  rw [h]

/-- A copy reads as the text of the file. -/
theorem decode_copy {path text : String} (h : t.readText path = .ok text) :
    Text.decode (Text.encode text) = .ok text := by
  obtain ⟨bytes, -, hdecode⟩ := readText_eq_ok_iff.1 h
  exact Text.decode_encode (Text.decode_noReturn hdecode)

end FileTree

-- ============================================================= copying

theorem copyAll_cons {tree : FileTree} {path text : String}
    (h : tree.readText path = .ok text) (folder : FileTree)
    (rest : List String) :
    copyAll tree folder (path :: rest)
      = folder.write (Path.name path) (Text.encode text) >>= fun next =>
          copyAll tree next rest := by
  rw [copyAll, h]
  exact pure_bind text _

/-- Where the copy of a file stands: in the working folder, under the file's
name. -/
def copyPlace (path : String) : List String :=
  FileTree.empty.home ++ [Path.name path]

theorem copyPlace_inj {path other : String} :
    copyPlace path = copyPlace other ↔ Path.name path = Path.name other := by
  simp [copyPlace]

/-- The last of several files whose copies stand at a place. -/
def lastAt? (own : List String) (place : List String) : Option String :=
  own.reverse.find? fun path => copyPlace path == place

theorem lastAt?_append (own : List String) (path : String)
    (place : List String) :
    lastAt? (own ++ [path]) place
      = if place = copyPlace path then some path else lastAt? own place := by
  unfold lastAt?
  rw [List.reverse_append, List.reverse_singleton, List.singleton_append,
    List.find?_cons]
  by_cases hplace : place = copyPlace path
  · rw [if_pos hplace, hplace, beq_self_eq_true]
  · rw [if_neg hplace, beq_false_of_ne (Ne.symm hplace)]

theorem mem_of_lastAt? {own : List String} {place : List String} {path : String}
    (h : lastAt? own place = some path) : path ∈ own ∧ copyPlace path = place :=
  ⟨List.mem_reverse.1 (List.mem_of_find?_eq_some h), by
    simpa using List.find?_some h⟩

/-- Every file has a last one of its name. -/
theorem exists_lastAt? {own : List String} {path : String} (h : path ∈ own) :
    ∃ q ∈ own, Path.name q = Path.name path ∧
      lastAt? own (copyPlace path) = some q := by
  cases hlast : lastAt? own (copyPlace path) with
  | none =>
      have hnone := List.find?_eq_none.1 hlast path (List.mem_reverse.2 h)
      simp at hnone
  | some q =>
      obtain ⟨hq, hplace⟩ := mem_of_lastAt? hlast
      exact ⟨q, hq, copyPlace_inj.1 hplace, rfl⟩

/-- A folder as copying files into it leaves it: files only, one at each place,
and there the copy of the last file of that name. -/
structure CopiesOf (tree : FileTree) (own : List String) (folder : FileTree) :
    Prop where
  home : folder.home = FileTree.empty.home
  flat : ∀ e ∈ folder.entries, ∃ path bytes, e
    = (copyPlace path, Entry.file bytes)
  distinct : (folder.entries.map Prod.fst).Nodup
  last : ∀ place, folder.fileAt? place = (lastAt? own place).bind tree.copyOf?

namespace CopiesOf

variable {tree folder : FileTree} {own : List String}

theorem empty (tree : FileTree) : CopiesOf tree [] .empty where
  home := rfl
  flat := by simp [FileTree.empty]
  distinct := List.nodup_nil
  last place := by
    unfold FileTree.fileAt? FileTree.at? FileTree.empty
    dsimp only
    split <;> simp_all [lastAt?]

/-- A copy stands below the working folder. -/
theorem not_prefix (h : CopiesOf tree own folder) (path : String) :
    ¬copyPlace path <+: folder.home := by
  rw [h.home]
  intro hprefix
  have hlength := hprefix.length_le
  rw [copyPlace, List.length_append, List.length_singleton] at hlength
  omega

theorem not_folder (h : CopiesOf tree own folder) (path : String) :
    folder.at? (copyPlace path) ≠ some .folder := by
  intro hat
  unfold FileTree.at? at hat
  rw [if_neg (mt List.isPrefixOf_iff_prefix.1 (h.not_prefix path))] at hat
  obtain ⟨e, he, hfolder⟩ := Option.map_eq_some_iff.1 hat
  obtain ⟨other, bytes, rfl⟩ := h.flat e (List.mem_of_find?_eq_some he)
  cases hfolder

/-- One more file is copied, in the place of the last one of its name. -/
theorem step (h : CopiesOf tree own folder) {path text : String}
    (hpath : Path.ending path ≠ "") (htext : tree.readText path = .ok text) :
    ∃ folder', folder.write (Path.name path) (Text.encode text) = .ok folder'
      ∧ CopiesOf tree (own ++ [path]) folder' := by
  obtain ⟨bytes, hread⟩ := FileTree.read_of_readText htext
  have hplace : folder.home ++ [Path.name path] = copyPlace path := by
    rw [h.home]
    rfl
  have hwrite :=
    FileTree.write_name (t := folder) (FileTree.isFit_of_read hpath hread)
      (hplace ▸ h.not_folder path) (Text.encode text)
  rw [hplace] at hwrite
  refine ⟨_, hwrite, h.home, ?_, ?_, ?_⟩
  · intro e he
    rcases List.mem_append.1 he with he | he
    · exact h.flat e (List.mem_filter.1 he).1
    · exact ⟨_, _, List.mem_singleton.1 he⟩
  · unfold FileTree.set
    rw [List.map_append, List.nodup_append]
    refine ⟨h.distinct.sublist (List.filter_sublist.map _),
      List.nodup_singleton _, ?_⟩
    rintro p hp q hq rfl
    obtain ⟨e, he, rfl⟩ := List.mem_map.1 hp
    have hother := (List.mem_filter.1 he).2
    simp only [List.map_cons, List.map_nil, List.mem_singleton] at hq
    simp [hq] at hother
  · intro place
    rw [FileTree.fileAt?_set (h.not_prefix path), lastAt?_append, h.last]
    by_cases hplace : place = copyPlace path
    · rw [if_pos hplace, if_pos hplace]
      exact (FileTree.copyOf?_of_readText htext).symm
    · rw [if_neg hplace, if_neg hplace]

/-- Copying files that can all be read goes through to the end. -/
theorem run (h : CopiesOf tree own folder) {paths : List String}
    (hpaths : ∀ p ∈ paths, Path.ending p ≠ "")
    (hread : ∀ p ∈ paths, ∃ text, tree.readText p = .ok text) :
    ∃ folder', copyAll tree folder paths = .ok folder' ∧
      CopiesOf tree (own ++ paths) folder' := by
  induction paths generalizing own folder with
  | nil => exact ⟨folder, rfl, by rwa [List.append_nil]⟩
  | cons path rest ih =>
      rw [List.forall_mem_cons] at hpaths hread
      obtain ⟨text, htext⟩ := hread.1
      obtain ⟨next, hwrite, hnext⟩ := h.step hpaths.1 htext
      obtain ⟨last, hrest, hlast⟩ := ih hnext hpaths.2 hread.2
      refine ⟨last, ?_, by rwa [List.append_assoc] at hlast⟩
      rw [copyAll_cons htext, hwrite]
      exact hrest

/-- The copy under a name reads as the last file of that name. -/
theorem readText_eq (h : CopiesOf tree own folder) {path last text : String}
    (hending : Path.ending last ≠ "")
    (hlast : lastAt? own (copyPlace path) = some last)
    (htext : tree.readText last = .ok text) : folder.readText (Path.name path)
      = .ok text := by
  rw [← copyPlace_inj.1 (mem_of_lastAt? hlast).2]
  obtain ⟨bytes, hread⟩ := FileTree.read_of_readText htext
  refine FileTree.readText_name (FileTree.isFit_of_read hending hread) ?_
    (FileTree.decode_copy htext)
  have hplace : folder.home ++ [Path.name last] = copyPlace path := by
    rw [h.home]
    exact (mem_of_lastAt? hlast).2
  rw [hplace, h.last, hlast]
  exact FileTree.copyOf?_of_readText htext

/-- All texts are there, each under the name of its file, exactly if files of
one name have one text. -/
theorem complete_iff (h : CopiesOf tree own folder)
    (hown : ∀ p ∈ own, Path.ending p ≠ "")
    (hread : ∀ p ∈ own, ∃ text, tree.readText p = .ok text) :
    (∀ p ∈ own, folder.readText (Path.name p) = tree.readText p)
      ↔ ∀ p ∈ own, ∀ q ∈ own, Path.name p = Path.name q →
      tree.readText p = tree.readText q := by
  constructor
  · intro hall p hp q hq hname
    rw [← hall p hp, hname, hall q hq]
  · intro hagree p hp
    obtain ⟨q, hq, hname, hlast⟩ := exists_lastAt? hp
    obtain ⟨text, htext⟩ := hread q hq
    rw [h.readText_eq (hown q hq) hlast htext, ← htext]
    exact hagree q hq p hp hname

/-- Where something stands, a copy does. -/
theorem mem_places_iff (h : CopiesOf tree own folder) (place : List String) :
    place ∈ folder.entries.map Prod.fst ↔
      ∃ bytes, folder.fileAt? place = some bytes := by
  constructor
  · intro hplace
    obtain ⟨e, he, rfl⟩ := List.mem_map.1 hplace
    obtain ⟨path, bytes, rfl⟩ := h.flat e he
    cases hfind : folder.entries.find? fun e => e.1 == copyPlace path with
    | none => simpa using List.find?_eq_none.1 hfind _ he
    | some found =>
        obtain ⟨q, b, rfl⟩ := h.flat found (List.mem_of_find?_eq_some hfind)
        refine ⟨b, FileTree.fileAt?_of_at? ?_⟩
        rw [FileTree.at?,
          if_neg (mt List.isPrefixOf_iff_prefix.1 (h.not_prefix path)), hfind]
        rfl
  · rintro ⟨bytes, hbytes⟩
    unfold FileTree.fileAt? FileTree.at? at hbytes
    by_cases hhome : place.isPrefixOf folder.home = true
    · simp [hhome] at hbytes
    · cases hfind : folder.entries.find? fun e => e.1 == place with
      | none => simp [hhome, hfind] at hbytes
      | some e =>
          have hplace : e.1 = place := by simpa using List.find?_some hfind
          exact hplace ▸ List.mem_map_of_mem (List.mem_of_find?_eq_some hfind)

/-- There is one copy for each name. -/
theorem places_perm (h : CopiesOf tree own folder)
    (hread : ∀ p ∈ own, ∃ text, tree.readText p = .ok text) :
    (folder.entries.map Prod.fst).Perm (own.map copyPlace).dedup := by
  refine (List.perm_ext_iff_of_nodup h.distinct (List.nodup_dedup _)).2
    fun place => ?_
  rw [h.mem_places_iff, h.last, List.mem_dedup, List.mem_map]
  constructor
  · rintro ⟨bytes, hbytes⟩
    obtain ⟨path, hlast, -⟩ := Option.bind_eq_some_iff.1 hbytes
    exact ⟨path, mem_of_lastAt? hlast⟩
  · rintro ⟨p, hp, rfl⟩
    obtain ⟨q, hq, -, hlast⟩ := exists_lastAt? hp
    obtain ⟨text, htext⟩ := hread q hq
    exact ⟨_,
      Option.bind_eq_some_iff.2 ⟨q, hlast, FileTree.copyOf?_of_readText htext⟩⟩

end CopiesOf

/-- A file that cannot be read ends the copying. -/
theorem copyAll_unreadable {tree : FileTree} {path : String} {why : Fault}
    (h : tree.readText path = .error why) {paths : List String}
    (hpath : path ∈ paths) (folder : FileTree) :
    ∃ why, copyAll tree folder paths = .error why := by
  induction paths generalizing folder with
  | nil => cases hpath
  | cons first rest ih =>
      cases hfirst : tree.readText first with
      | error why' => exact ⟨why', by rw [copyAll, hfirst]; rfl⟩
      | ok text =>
          have hrest : path ∈ rest := by
            rcases List.mem_cons.1 hpath with rfl | hrest
            · rw [h] at hfirst
              cases hfirst
            · exact hrest
          rw [copyAll_cons hfirst]
          cases folder.write (Path.name first) (Text.encode text) with
          | error why' => exact ⟨why', rfl⟩
          | ok next => exact ih hrest next

-- ======================================================== handing over

/-- What a scan hands to its program. If all its files can be read as text, it
is a folder of their copies, and the report is made of what the program does
there; if one of them cannot, the program has no part in the report. -/
def HandsCopies (tree : FileTree) (own : List String)
    (scan : (FileTree → Outcome (Int × String × String)) → ToolReport)
    (report : Outcome (Int × String × String) → ToolReport) : Prop :=
  ((∀ p ∈ own, ∃ text, tree.readText p = .ok text) →
    ∃ folder, (∀ run, scan run = report (run folder)) ∧ CopiesOf tree own folder
      ∧ (folder.entries.map Prod.fst).Perm (own.map copyPlace).dedup
      ∧ ((∀ p ∈ own, folder.readText (Path.name p) = tree.readText p)
          ↔ ∀ p ∈ own, ∀ q ∈ own, Path.name p = Path.name q →
              tree.readText p = tree.readText q)) ∧
  ((∃ p ∈ own, ∃ why, tree.readText p = .error why) →
    ∃ why, ∀ run, scan run = report (.error why))

/-- A scan that runs its program on the copies hands them over. -/
theorem HandsCopies.of_copyAll {tree : FileTree} {own : List String}
    {scan : (FileTree → Outcome (Int × String × String)) → ToolReport}
    {report : Outcome (Int × String × String) → ToolReport}
    (hscan : ∀ run, scan run = report (copyAll tree .empty own >>= run))
    (hown : ∀ p ∈ own, Path.ending p ≠ "") :
    HandsCopies tree own scan report := by
  constructor
  · intro hread
    obtain ⟨folder, hcopy, hcopies⟩ := (CopiesOf.empty tree).run hown hread
    rw [List.nil_append] at hcopies
    refine ⟨folder, fun run => ?_, hcopies, hcopies.places_perm hread,
      hcopies.complete_iff hown hread⟩
    rw [hscan, hcopy]
    rfl
  · rintro ⟨p, hp, why, hwhy⟩
    obtain ⟨why', hcopy⟩ := copyAll_unreadable hwhy hp .empty
    refine ⟨why', fun run => ?_⟩
    rw [hscan, hcopy]
    rfl

/-- Programs take files by their endings, and never those without one. -/
theorem ending_of_taken (test : String → Bool) (htest : test "" = false)
    {paths : List String} :
    ∀ p ∈ paths.filter fun path => test (Path.ending path), Path.ending p
      ≠ "" := by
  intro p hp hending
  have htaken := (List.mem_filter.1 hp).2
  rw [hending, htest] at htaken
  cases htaken

namespace Bandit

theorem handsCopies {paths : List String} (h : paths.filter takes ≠ [])
    (tree : FileTree) :
    HandsCopies tree (paths.filter takes) (fun run => scanBy run tree paths)
      fun answer => .ofOutcome "bandit" "Bandit" (answer >>= reported) := by
  refine .of_copyAll (fun run => ?_) (ending_of_taken (· == ".py") rfl)
  unfold scanBy
  rw [if_neg (mt List.isEmpty_iff.1 h), bind_assoc]

end Bandit

namespace Semgrep

theorem handsCopies (paths : List String) (tree : FileTree) :
    HandsCopies tree (paths.filter takes) (fun run => scanBy run tree paths)
      fun answer => .ofOutcome "semgrep" "Semgrep" (answer >>= reported) := by
  refine .of_copyAll (fun run => ?_) (ending_of_taken
    [".py", ".js", ".jsx", ".ts", ".tsx", ".java", ".go", ".rb",
      ".php"].contains rfl)
  unfold scanBy
  rw [bind_assoc]

end Semgrep

/-- The folder that a program is run on has one file for each name among the
files that it takes, with the text of the last of them. So it holds the texts of
all of them exactly if those of one name have one text. If one of the files
cannot be read as text, no folder is handed over. -/
theorem tools_handed_last_of_each_name (tree : FileTree) (paths : List String) :
    (paths.filter Bandit.takes ≠ [] →
      HandsCopies tree (paths.filter Bandit.takes)
        (fun run => Bandit.scanBy run tree paths) fun answer =>
          .ofOutcome "bandit" "Bandit" (answer >>= Bandit.reported))
      ∧ HandsCopies tree (paths.filter Semgrep.takes)
        (fun run => Semgrep.scanBy run tree paths)
        fun answer =>
          .ofOutcome "semgrep" "Semgrep" (answer >>= Semgrep.reported) :=
  ⟨fun hown => Bandit.handsCopies hown tree, Semgrep.handsCopies paths tree⟩

/-- Two programs of one name with different texts, and one that is no text. -/
def crowdedFolder : FileTree :=
  ((FileTree.empty.withFile "a/x.py" [0x31]).withFile "b/x.py" [0x32]).withFile
    "c.py" [0xE9]

theorem tools_handed_last_of_each_name_crowded :
    ["a/x.py", "b/x.py"].filter Bandit.takes ≠ [] ∧
      crowdedFolder.readText "a/x.py" = .ok "1"
      ∧ crowdedFolder.readText "b/x.py" = .ok "2"
      ∧ ∃ folder, (∀ run, Bandit.scanBy run crowdedFolder ["a/x.py", "b/x.py"]
          = .ofOutcome "bandit" "Bandit" (run folder >>= Bandit.reported))
        ∧ folder.entries.map Prod.fst = [copyPlace "x.py"]
        ∧ folder.readText "x.py" = .ok "2" := by
  have hown : ["a/x.py", "b/x.py"].filter Bandit.takes
      = ["a/x.py", "b/x.py"] := rfl
  have hfirst : crowdedFolder.readText "a/x.py" = .ok "1" := rfl
  have hsecond : crowdedFolder.readText "b/x.py" = .ok "2" := rfl
  have htaken : ["a/x.py", "b/x.py"].filter Bandit.takes ≠ [] := by
    rw [hown]; simp
  obtain ⟨hhanded, -⟩ :=
    (tools_handed_last_of_each_name crowdedFolder ["a/x.py", "b/x.py"]).1 htaken
  rw [hown] at hhanded
  obtain ⟨folder, hrun, hcopies, hplaces, -⟩ := hhanded (by
    simp [hfirst, hsecond])
  refine ⟨htaken, hfirst, hsecond, folder, hrun, ?_, ?_⟩
  · have hnames : (["a/x.py", "b/x.py"].map copyPlace).dedup
        = [copyPlace "x.py"] := rfl
    rw [hnames] at hplaces
    exact List.perm_singleton.1 hplaces
  · have hlater : lastAt? ["a/x.py", "b/x.py"] (copyPlace "x.py")
        = some "b/x.py" := rfl
    have hread := hcopies.readText_eq (by decide) hlater hsecond
    exact hread

/-- Of two programs with one name the first is not handed over, and a program
that can be read but is no text takes the whole folder with it. -/
theorem copies_miss_files :
    (∃ folder, (∀ run, Bandit.scanBy run crowdedFolder ["a/x.py", "b/x.py"]
          = .ofOutcome "bandit" "Bandit" (run folder >>= Bandit.reported))
        ∧ ∀ place, folder.fileAt? place ≠ some (Text.encode "1"))
      ∧ crowdedFolder.read "c.py" = .ok [0xE9]
      ∧ ∃ report, ∀ run, Bandit.scanBy run crowdedFolder ["a/x.py", "c.py"]
        = report := by
  have hsame : ["a/x.py", "b/x.py"].filter Bandit.takes
      = ["a/x.py", "b/x.py"] := rfl
  have hbroken : ["a/x.py", "c.py"].filter Bandit.takes
      = ["a/x.py", "c.py"] := rfl
  have htaken : ["a/x.py", "b/x.py"].filter Bandit.takes ≠ []
      ∧ ["a/x.py", "c.py"].filter Bandit.takes ≠ [] := by
    rw [hsame, hbroken]
    simp
  refine ⟨?_, rfl, ?_⟩
  · obtain ⟨hhanded, -⟩ := Bandit.handsCopies htaken.1 crowdedFolder
    rw [hsame] at hhanded
    have hfirst : crowdedFolder.readText "a/x.py" = .ok "1" := rfl
    have hsecond : crowdedFolder.readText "b/x.py" = .ok "2" := rfl
    obtain ⟨folder, hrun, hcopies, -⟩ := hhanded (by simp [hfirst, hsecond])
    refine ⟨folder, hrun, fun place hplace => ?_⟩
    rw [hcopies.last] at hplace
    obtain ⟨path, hlast, hcopy⟩ := Option.bind_eq_some_iff.1 hplace
    obtain ⟨hpath, rfl⟩ := mem_of_lastAt? hlast
    -- both files have the name at which the second is the last
    have hname : copyPlace path = copyPlace "x.py" := by
      rcases List.mem_pair.1 hpath with rfl | rfl <;> rfl
    have hlater : lastAt? ["a/x.py", "b/x.py"] (copyPlace "x.py")
        = some "b/x.py" := rfl
    rw [hname, hlater] at hlast
    obtain rfl := Option.some.inj hlast
    rw [FileTree.copyOf?_of_readText hsecond] at hcopy
    -- a copy tells the text it was made of
    have htexts := FileTree.decode_copy hsecond
    rw [Option.some.inj hcopy, FileTree.decode_copy hfirst] at htexts
    exact absurd (Except.ok.inj htexts) (by decide)
  · obtain ⟨-, hnone⟩ := Bandit.handsCopies htaken.2 crowdedFolder
    rw [hbroken] at hnone
    obtain ⟨why, hreport⟩ := hnone ⟨"c.py", by simp, _, rfl⟩
    exact ⟨_, hreport⟩

end SourceAudit
