/-
Where the production server stores uploads, and when one takes the place of
another.

The stored name is the id of the user and the name of the file with an
underscore in between. Paths inside a folder can be told apart by root and names
(`Path.join_eq_iff`), so two uploads have one path just if their stored names
are read alike. Where no slash is in them, stored names are the same just if a
piece up to an underscore has moved from the name of the file to the id of the
user (`storedName_eq_iff`), and then they are names of their own in the folder
of the server (`Sent.placeOf_path`). An upload writes to its own place and to no
other (`Sent.writesOnly_handle`); so a file is kept through any uploads that do
not clash with it (`Sent.fileAt?_after`), and lost to the first that does and is
accepted (`Sent.fileAt?_place`).
-/
import SourceAudit.Proofs.Service.Uploads

namespace SourceAudit

-- =========================================================== addresses

namespace Path

/-- The root and the names of a path inside a folder. -/
def address (folder inner : String) : String × List String :=
  if root inner = "" then (root folder, names folder ++ names inner)
    else (root inner, names inner)

theorem join_eq_plain_address (folder inner : String) :
    join folder inner
      = plain (address folder inner).1 (address folder inner).2 := by
  unfold address
  split
  · exact join_eq_plain folder ‹_›
  · have hrooted : root inner ≠ "" := ‹_›
    rw [join, if_pos (by simpa using hrooted)]
    rfl

theorem root_join_address (folder inner : String) :
    root (join folder inner) = (address folder inner).1 := by
  rw [join_eq_plain_address]
  unfold address
  split
  · exact root_plain (root_mem_roots _) fun _ => isName_of_mem_append
  · exact root_plain (root_mem_roots _) fun _ => isName_of_mem_names

theorem names_join_address (folder inner : String) :
    names (join folder inner) = (address folder inner).2 := by
  rw [join_eq_plain_address]
  unfold address
  split
  · exact names_plain (root_mem_roots _) fun _ => isName_of_mem_append
  · exact names_plain (root_mem_roots _) fun _ => isName_of_mem_names

/-- Paths inside a folder are the same just if root and names are. -/
theorem join_eq_iff (folder inner inner' : String) :
    join folder inner = join folder inner' ↔
      address folder inner = address folder inner' := by
  constructor
  · intro h
    refine Prod.ext ?_ ?_
    · rw [← root_join_address, ← root_join_address, h]
    · rw [← names_join_address, ← names_join_address, h]
  · intro h
    rw [join_eq_plain_address, join_eq_plain_address, h]

end Path

namespace ProductionService

open Handler Desk Store

-- ======================================================== stored names

/-- An upload as it comes in. -/
structure Sent where
  user : String
  name : String
  bytes : List UInt8

namespace Sent

/-- The name under which an upload is stored. -/
def storedName (s : Sent) : String :=
  s.user ++ "_" ++ s.name

/-- Where an upload is stored. -/
def path (c : ServerSettings) (s : Sent) : String :=
  storedPath c s.user s.name

/-- An upload whose user and name are no paths. -/
def IsLabelled (s : Sent) : Prop :=
  '/' ∉ s.user.toList ∧ '/' ∉ s.name.toList

/-- The name of the second upload is what the name of the first leaves, once a
piece up to an underscore has moved to the user. -/
def Shifted (s t : Sent) : Prop :=
  ∃ moved, t.user = s.user ++ "_" ++ moved ∧ s.name = moved ++ "_" ++ t.name

/-- Uploads of one user under one name, or with a piece moved one way or the
other. -/
def Clash (s t : Sent) : Prop :=
  (s.user = t.user ∧ s.name = t.name) ∨ s.Shifted t ∨ t.Shifted s

variable {s t : Sent}

theorem Clash.symm (h : s.Clash t) : t.Clash s := by
  rcases h with ⟨huser, hname⟩ | h | h
  · exact .inl ⟨huser.symm, hname.symm⟩
  · exact .inr (.inr h)
  · exact .inr (.inl h)

theorem toList_storedName (s : Sent) :
    s.storedName.toList = s.user.toList ++ '_' :: s.name.toList := by
  simp [storedName]

theorem storedName_of_shifted (h : s.Shifted t) :
    s.storedName = t.storedName := by
  obtain ⟨moved, huser, hname⟩ := h
  simp only [storedName, huser, hname, String.append_assoc]

/-- The underscore of the one name stands where that of the other does, or after
it. -/
theorem clash_of_longer {more : List Char}
    (huser : t.user.toList = s.user.toList ++ more)
    (hname : '_' :: s.name.toList = more ++ '_' :: t.name.toList) :
    s.Clash t := by
  cases more with
  | nil =>
      refine .inl ⟨?_, ?_⟩
      · rw [← String.toList_inj, huser, List.append_nil]
      · rw [← String.toList_inj]
        exact (List.cons.inj hname).2
  | cons c moved =>
      obtain ⟨rfl, hmoved⟩ := List.cons.inj hname
      refine .inr (.inl ⟨String.ofList moved, ?_, ?_⟩)
      · rw [← String.toList_inj, huser]
        simp
      · rw [← String.toList_inj, hmoved]
        simp

/-- Two uploads are stored under one name just if they clash. -/
theorem storedName_eq_iff : s.storedName = t.storedName ↔ s.Clash t := by
  constructor
  · intro h
    have hlist := congrArg String.toList h
    rw [toList_storedName, toList_storedName,
      List.append_eq_append_iff] at hlist
    rcases hlist with ⟨more, huser, hname⟩ | ⟨more, huser, hname⟩
    · exact clash_of_longer huser hname
    · exact (clash_of_longer huser hname).symm
  · rintro (⟨huser, hname⟩ | h | h)
    · rw [storedName, storedName, huser, hname]
    · exact storedName_of_shifted h
    · exact (storedName_of_shifted h).symm

/-- No piece can have moved to a user without an underscore. -/
theorem not_shifted (h : '_' ∉ t.user.toList) : ¬ s.Shifted t := by
  rintro ⟨moved, huser, -⟩
  apply h
  rw [huser]
  simp

theorem eq_of_clash (hs : '_' ∉ s.user.toList) (ht : '_' ∉ t.user.toList)
    (h : s.Clash t) : s.user = t.user ∧ s.name = t.name := by
  rcases h with h | h | h
  · exact h
  · exact absurd h (not_shifted ht)
  · exact absurd h (not_shifted hs)

-- ============================================================== places

/-- An underscore is in every stored name, so it is never empty and never a
dot. -/
theorem ne_storedName {n : String} (h : '_' ∉ n.toList) (s : Sent) :
    s.storedName ≠ n := by
  rintro rfl
  apply h
  rw [toList_storedName]
  simp

theorem isName_storedName (h : s.IsLabelled) : Path.IsName s.storedName := by
  refine ⟨ne_storedName (by decide) s, ne_storedName (by decide) s, ?_⟩
  rw [toList_storedName]
  simpa using ⟨h.1, h.2⟩

/-- An upload that is no path is stored right in the folder of the server. -/
theorem placeOf_path (tree : FileTree) (c : ServerSettings)
    (h : s.IsLabelled) :
    tree.placeOf (s.path c)
      = tree.placeOf c.storage.localPath ++ [s.storedName] :=
  tree.placeOf_join_name c.storage.localPath (isName_storedName h)
    (ne_storedName (by decide) s)

theorem placeOf_path_eq_iff (tree : FileTree) (c : ServerSettings)
    (hs : s.IsLabelled) (ht : t.IsLabelled) :
    tree.placeOf (s.path c) = tree.placeOf (t.path c) ↔ s.Clash t := by
  rw [placeOf_path tree c hs, placeOf_path tree c ht, ← storedName_eq_iff]
  simp

/-- Uploads that are no paths have one path just if they clash. -/
theorem path_eq_iff (c : ServerSettings) (hs : s.IsLabelled)
    (ht : t.IsLabelled) : s.path c = t.path c ↔ s.Clash t := by
  constructor
  · intro h
    apply (placeOf_path_eq_iff .empty c hs ht).1
    rw [h]
  · intro h
    rw [path, path, storedPath, storedPath]
    exact congrArg (Path.join c.storage.localPath) (storedName_eq_iff.2 h)

-- ============================================================= writing

variable {inspect : FileScan} {c : ServerSettings}

/-- What the server does with an upload. -/
def handle (inspect : FileScan) (c : ServerSettings) (s : Sent) :
    Handler Value :=
  uploadWith inspect c s.user s.name s.bytes

/-- The desk after uploads, one after the other, whatever came of each. -/
def after (inspect : FileScan) (c : ServerSettings) (d : Desk)
    (sent : List Sent) : Desk :=
  sent.foldl (fun d s => ((s.handle inspect c).run.run d).2) d

/-- Writing a file changes that file. -/
theorem writesFrom_write (tree : FileTree) (path : String)
    (bytes : List UInt8) :
    Along (WritesFrom tree.home fun p => p = tree.placeOf path)
      (write path bytes) := by
  intro d hhome
  rw [run_write]
  cases hwritten : d.tree.write path bytes with
  | error f => exact SameFiles.writesOnly rfl
  | ok t =>
      obtain ⟨hplace, rfl⟩ := FileTree.write_eq_ok hwritten
      refine ⟨rfl, fun p hp => ?_⟩
      rw [← FileTree.placeOf_eq_of_home hhome] at hp
      show (FileTree.set _ _ _).fileAt? p = _
      rw [FileTree.fileAt?_set hplace, if_neg hp]

/-- Making a folder changes no file. -/
theorem addsFolders_makeOne (path : String) (d : Desk) :
    d.tree.AddsFolders ((makeOne path).run.run d).2.tree := by
  rw [run_makeOne]
  cases hmade : d.tree.makeOne path with
  | error f => exact .refl d.tree
  | ok t => exact FileTree.addsFolders_makeOne hmade

/-- Stores an upload and enters a row for its scan: the id of the scan. -/
def enter (c : ServerSettings) (s : Sent) : Handler Value := do
  ofOutcome (checkUpload c s.name s.bytes.length)
  makeOne c.storage.localPath
  write (s.path c) s.bytes
  let data ← ofAction (Action.rows ((Query.table "scans").insert
    (scanRow s.user s.name (s.path c) s.bytes.length)))
  ofOutcome (do (← first data).pick "id")

/-- Scans an upload that has a row, and enters what was found. -/
def finish (inspect : FileScan) (c : ServerSettings) (s : Sent) (scan : Value) :
    Handler Value := do
  let issues ← scanFile inspect (s.path c)
  ofAction (record scan (issues.map (issueRow scan (s.path c))))
  return uploadReply scan (s.path c) issues

theorem uploadChecked_eq (inspect : FileScan) (c : ServerSettings) (s : Sent) :
    uploadChecked inspect c s.user s.name s.bytes = s.enter c >>=
      s.finish inspect c := by
  simp only [uploadChecked, enter, bind_assoc]
  rfl

/-- Once an upload has its row, no file changes any more. -/
theorem sameFiles_finish (inspect : FileScan) (c : ServerSettings) (s : Sent)
    (scan : Value) : Along SameFiles (s.finish inspect c scan) := by
  have hscan : Along SameFiles (scanFile inspect (s.path c)) := by
    intro d
    rw [run_scanFile]
    exact refl_of _ d
  exact hscan.bind fun _ => (sameFiles_ofAction _).bind fun _ => along_pure _

/-- An upload writes to its own place and nowhere else, whatever comes of it. -/
theorem writesOnly_handle (inspect : FileScan) (c : ServerSettings) (s : Sent)
    (d : Desk) :
    d.WritesOnly (fun p => p = d.tree.placeOf (s.path c))
      ((s.handle inspect c).run.run d).2 := by
  have hrow (row : Value) : Along SameFiles (do
      let data ← ofAction (Action.rows ((Query.table "scans").insert row))
      ofOutcome (do (← first data).pick "id")) :=
    (sameFiles_ofAction _).bind fun _ => along_ofOutcome _
  have halong : Along
      (WritesFrom d.tree.home fun p => p = d.tree.placeOf (s.path c))
      (s.handle inspect c) := by
    refine Along.tryCatch ?_ fun f => ?_
    · rw [uploadChecked_eq]
      refine Along.bind ?_ fun scan d₁ _ =>
        (sameFiles_finish inspect c s scan d₁).writesOnly
      refine (along_ofOutcome _).bind fun _ => Along.bind ?_ fun _ =>
        (writesFrom_write d.tree _ _).bind fun _ d₁ _ => (hrow _ d₁).writesOnly
      exact fun d₁ _ => writesOnly_of_addsFolders (addsFolders_makeOne _ d₁)
    · split
      · exact fun d₁ => refl_of _ d₁
      · exact fun d₁ => refl_of _ d₁
  exact halong d rfl

/-- An upload that has its row stands at its place. -/
theorem fileAt?_enter {d d' : Desk} {scan : Value}
    (hok : (s.enter c).run.run d = (.ok scan, d')) :
    d'.tree.fileAt? (d.tree.placeOf (s.path c)) = some s.bytes := by
  obtain ⟨_, d₁, hallowed, hok⟩ := bind_eq_ok hok
  obtain ⟨_, d₂, hfolder, hok⟩ := bind_eq_ok hok
  obtain ⟨_, d₃, hwrite, hok⟩ := bind_eq_ok hok
  obtain ⟨data, d₄, hdata, hscan⟩ := bind_eq_ok hok
  rw [run_ofOutcome] at hallowed
  obtain rfl := (Prod.mk.inj hallowed).2
  have hmade := addsFolders_makeOne c.storage.localPath d
  rw [hfolder] at hmade
  -- neither asking for the row nor reading the answer touches a file
  rw [run_ofOutcome] at hscan
  obtain rfl := (Prod.mk.inj hscan).2
  rw [run_ofAction] at hdata
  obtain rfl := (Prod.mk.inj hdata).2
  rw [run_write] at hwrite
  cases htree : d₂.tree.write (s.path c) s.bytes with
  | error f =>
      rw [htree] at hwrite
      cases (Prod.mk.inj hwrite).1
  | ok t =>
      rw [htree] at hwrite
      obtain rfl := (Prod.mk.inj hwrite).2
      obtain ⟨hplace, rfl⟩ := FileTree.write_eq_ok htree
      show (FileTree.set _ _ _).fileAt? _ = _
      rw [FileTree.fileAt?_set hplace, hmade.grows.placeOf, if_pos rfl]

/-- An upload that is accepted stands at its place. -/
theorem fileAt?_place {d d' : Desk} {v : Value}
    (hok : (s.handle inspect c).run.run d = (.ok v, d')) :
    d'.tree.fileAt? (d.tree.placeOf (s.path c)) = some s.bytes := by
  have hchecked := uploadChecked_of_uploadWith hok
  rw [uploadChecked_eq] at hchecked
  obtain ⟨scan, d₁, henter, hfinish⟩ := bind_eq_ok hchecked
  have hsame : SameFiles d₁ d' := by
    have hfinished := sameFiles_finish inspect c s scan d₁
    rw [hfinish] at hfinished
    exact hfinished
  rw [hsame]
  exact fileAt?_enter henter

/-- A file is kept through uploads none of which is stored in its place. -/
theorem fileAt?_after {p : List String} {later : List Sent} {d : Desk}
    (h : ∀ s ∈ later, d.tree.placeOf (s.path c) ≠ p) :
    (after inspect c d later).tree.fileAt? p = d.tree.fileAt? p := by
  induction later generalizing d with
  | nil => rfl
  | cons s rest ih =>
      rw [List.forall_mem_cons] at h
      have hstep := writesOnly_handle inspect c s d
      rw [← hstep.files p (Ne.symm h.1)]
      refine ih fun t ht => ?_
      rw [FileTree.placeOf_eq_of_home hstep.home]
      exact h.2 t ht

/-- When two uploads are stored in one place. The paths are the same just if the
stored names have one root and the same names from the folder of the server. If
they are no paths, that is so just if they clash; and an upload that clashes
with another and is accepted takes its place, and any uploads that do not clash
with it leave it there. Between users without an underscore none clash. -/
theorem stored_apart_unless_clash (inspect : FileScan) (c : ServerSettings)
    (s t : Sent) :
    (s.path c = t.path c ↔ Path.address c.storage.localPath s.storedName
      = Path.address c.storage.localPath t.storedName) ∧
    ('_' ∉ s.user.toList → '_' ∉ t.user.toList →
      (s.Clash t ↔ s.user = t.user ∧ s.name = t.name)) ∧
    (s.IsLabelled → t.IsLabelled → (s.path c = t.path c ↔ s.Clash t)) ∧
    (s.IsLabelled →
      (t.IsLabelled → s.Clash t → ∀ d v d',
        (t.handle inspect c).run.run d = (.ok v, d') →
          d'.tree.fileAt? (d.tree.placeOf (s.path c)) = some t.bytes) ∧
      ∀ d later, (∀ u ∈ later, u.IsLabelled ∧ ¬ s.Clash u) →
        (after inspect c d later).tree.fileAt? (d.tree.placeOf (s.path c))
          = d.tree.fileAt? (d.tree.placeOf (s.path c))) := by
  refine ⟨Path.join_eq_iff _ _ _, fun hs ht => ⟨eq_of_clash hs ht, .inl⟩,
    path_eq_iff c, fun hs => ⟨?_, ?_⟩⟩
  · intro ht hclash d v d' hok
    rw [(placeOf_path_eq_iff d.tree c hs ht).2 hclash]
    exact fileAt?_place hok
  · intro d later hlater
    refine fileAt?_after fun u hu hplace => ?_
    obtain ⟨hlabelled, hapart⟩ := hlater u hu
    exact hapart ((placeOf_path_eq_iff d.tree c hs hlabelled).1 hplace.symm)

def underscored : Sent := ⟨"a", "b_c.py", [1]⟩

/-- The upload of another user that clashes with it. -/
def moved : Sent := ⟨"a_b", "c.py", [2]⟩

/-- An upload of a third user, under the first one's name. -/
def apart : Sent := ⟨"d", "b_c.py", [3]⟩

/-- A store that gives every scan a row. -/
def givesRows : List Reply :=
  List.replicate 6 (.answers (.list [.record [("id", .int 7)]]) .null .null)

/-- Where the first of them is stored. -/
def underscoredPlace : List String := ["tmp", "vibeauditor", "a_b_c.py"]

/-- The upload that clashes takes the place of the first, and the third one does
not. -/
theorem stored_apart_unless_clash_underscored :
    underscored.path plainServer = moved.path plainServer ∧
      (∃ v d', (moved.handle openDoors plainServer).run.run
          (usualDesk givesRows) = (.ok v, d') ∧
        d'.tree.fileAt? underscoredPlace = some [2]) ∧
      ∀ d, (after openDoors plainServer d [apart]).tree.fileAt?
          underscoredPlace
        = d.tree.fileAt? underscoredPlace := by
  have hfirst : underscored.IsLabelled := ⟨by decide, by decide⟩
  have hsecond : moved.IsLabelled := ⟨by decide, by decide⟩
  have hclash : underscored.Clash moved :=
    .inr (.inl ⟨"b", by decide, by decide⟩)
  have hplace (d : Desk) : d.tree.placeOf (underscored.path plainServer)
      = underscoredPlace := rfl
  obtain ⟨-, -, hpath, hfiles⟩ :=
    stored_apart_unless_clash openDoors plainServer underscored moved
  obtain ⟨hlost, hkept⟩ := hfiles hfirst
  refine ⟨(hpath hfirst hsecond).2 hclash, ?_,
    fun d => hplace d ▸ hkept d [apart] ?_⟩
  · obtain ⟨v, d', hok⟩ : ∃ v d',
        (moved.handle openDoors plainServer).run.run (usualDesk givesRows)
          = (.ok v, d') :=
      ⟨_, _, rfl⟩
    exact ⟨v, d', hok, hplace _ ▸ hlost hsecond hclash _ _ _ hok⟩
  · intro u hu
    obtain rfl := List.mem_singleton.1 hu
    obtain ⟨-, hclash_iff, -⟩ :=
      stored_apart_unless_clash openDoors plainServer underscored apart
    refine ⟨⟨by decide, by decide⟩, fun h => ?_⟩
    exact absurd ((hclash_iff (by decide) (by decide)).1 h).1 (by decide)

/-- Two users send files under different names, both are accepted, and the
second file stands where the first one was. -/
theorem upload_overwrites_another_user :
    underscored.user ≠ moved.user ∧ underscored.name ≠ moved.name ∧
      underscored.path plainServer = moved.path plainServer ∧
      (after openDoors plainServer (usualDesk givesRows)
        [underscored]).tree.fileAt? underscoredPlace = some [1] ∧
      (after openDoors plainServer (usualDesk givesRows)
        [underscored, moved]).tree.fileAt? underscoredPlace = some [2] :=
  ⟨by decide, by decide, by decide, by decide +kernel, by decide +kernel⟩

end Sent

end ProductionService

end SourceAudit
