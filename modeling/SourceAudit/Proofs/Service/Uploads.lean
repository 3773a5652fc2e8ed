/-
Where an upload writes.

Both services save the files of an upload alike, each under its own name joined
to the folder that was made for the upload. What saving one file can do is told
once (`Saving`); from that, what saving all of them leaves alone, and that every
file of an upload that succeeds has been written where its path leads. The
folder holds no file back: a name that begins at the root, or climbs out of the
folder and does not come back, is written where it leads all the same
(`upload_escapes`).
-/
import SourceAudit.Proofs.FileTree.Writing
import SourceAudit.Proofs.Service.ProductionUpload
import SourceAudit.Service.Account
import Mathlib.Order.Defs.Unbundled

namespace SourceAudit

-- =============================================================== desks

namespace Desk

/-- Two desks with the same files. -/
def SameFiles (d d' : Desk) : Prop :=
  d'.tree = d.tree

/-- From one desk to another the working folder has stayed where it is, and no
files have changed but those at such places. -/
structure WritesOnly (places : List String → Prop) (d d' : Desk) : Prop where
  home : d'.tree.home = d.tree.home
  files : ∀ p, ¬places p → d'.tree.fileAt? p = d.tree.fileAt? p

/-- With the working folder at a place, no files change but those at such
places. -/
def WritesFrom (home : List String) (places : List String → Prop)
    (d d' : Desk) : Prop :=
  d.tree.home = home → WritesOnly places d d'

variable {places : List String → Prop} {d d' : Desk}

theorem SameFiles.writesOnly (h : SameFiles d d') : WritesOnly places d d' := by
  rw [SameFiles] at h
  exact ⟨by rw [h], fun p _ => by rw [h]⟩

/-- Folders that are added change no file. -/
theorem writesOnly_of_addsFolders (h : d.tree.AddsFolders d'.tree) :
    WritesOnly places d d' :=
  ⟨h.grows.home, fun p _ => h.files p⟩

instance : IsPreorder Desk SameFiles where
  refl _ := rfl
  trans _ _ _ hab hbc := hbc.trans hab

theorem WritesOnly.trans {d'' : Desk} (h : WritesOnly places d d')
    (h' : WritesOnly places d' d'') : WritesOnly places d d'' :=
  ⟨h'.home.trans h.home, fun p hp => (h'.files p hp).trans (h.files p hp)⟩

instance {home : List String} : IsPreorder Desk (WritesFrom home places) where
  refl _ _ := SameFiles.writesOnly rfl
  trans _ _ _ hab hbc hhome :=
    (hab hhome).trans (hbc ((hab hhome).home.trans hhome))

/-- What writes only to some places writes only to more. -/
theorem WritesOnly.mono {places' : List String → Prop}
    (h : WritesOnly places d d') (hplaces : ∀ p, places p → places' p) :
    WritesOnly places' d d' :=
  ⟨h.home, fun p hp => h.files p (mt (hplaces p) hp)⟩

end Desk

open Desk

-- ================================================================ work

namespace Handler

/-- Work that leads from a desk to a related one, whether it fails or not. -/
def Along (R : Desk → Desk → Prop) {α : Type} (h : Handler α) : Prop :=
  ∀ d : Desk, R d (h.run.run d).2

section Along

variable {R : Desk → Desk → Prop} [IsPreorder Desk R] {α β : Type}

theorem along_pure (a : α) : Along R (pure a : Handler α) :=
  fun d => refl_of R d

theorem along_ofOutcome (r : Outcome α) : Along R (ofOutcome r) := by
  intro d
  rw [run_ofOutcome]
  exact refl_of R d

theorem Along.bind {h : Handler α} {k : α → Handler β} (hh : Along R h)
    (hk : ∀ a, Along R (k a)) : Along R (h >>= k) := by
  intro d
  have hfirst := hh d
  rw [run_bind]
  cases hrun : h.run.run d with
  | mk r d' =>
      rw [hrun] at hfirst
      cases r with
      | error f => exact hfirst
      | ok a => exact trans_of R hfirst (hk a d')

theorem Along.tryCatch {h : Handler α} {k : Fault → Handler α} (hh : Along R h)
    (hk : ∀ f, Along R (k f)) : Along R (tryCatch h k) := by
  intro d
  have hfirst := hh d
  rw [run_tryCatch]
  cases hrun : h.run.run d with
  | mk r d' =>
      rw [hrun] at hfirst
      cases r with
      | ok a => exact hfirst
      | error f => exact trans_of R hfirst (hk f d')

/-- One thing for each of many, each of which keeps to the relation. -/
theorem along_forM {k : α → Handler Unit} {as : List α}
    (hk : ∀ a ∈ as, Along R (k a)) : Along R (as.forM k) := by
  induction as with
  | nil => exact along_pure ()
  | cons a rest ih =>
      have hrest : Along R (rest.forM k) := ih fun b hb =>
        hk b (List.mem_cons_of_mem a hb)
      exact (hk a List.mem_cons_self).bind fun _ => hrest

end Along

theorem sameFiles_ofAction {α : Type} (a : Store.Action α) :
    Along SameFiles (ofAction a) := by
  intro d
  rw [run_ofAction]
  rfl

-- ============================================================== saving

/-- Making a folder changes no file. -/
theorem addsFolders_makeFolder (path : String) (d : Desk) :
    d.tree.AddsFolders ((makeFolder path).run.run d).2.tree := by
  rw [run_makeFolder]
  exact d.tree.addsFolders_makeFolder path

/-- What can come of saving a file under a path: it fails and no file has
changed, or the file stands where the path leads. -/
inductive Saving (path : String) (bytes : List UInt8) (d : Desk) :
    Except Fault Unit × Desk → Prop
  | failed {f : Fault} {d' : Desk} (h : d.tree.AddsFolders d'.tree) :
      Saving path bytes d (.error f, d')
  | saved {d' : Desk} (hgrows : d.tree.Grows d'.tree)
      (hfiles : ∀ p, d'.tree.fileAt? p
        = if p = d.tree.placeOf path then some bytes else d.tree.fileAt? p) :
      Saving path bytes d (.ok (), d')

theorem saving_saveFile (folder : String) (file : String × List UInt8)
    (d : Desk) :
    Saving (Path.join folder file.1) file.2 d
      ((saveFile folder file).run.run d) := by
  unfold saveFile
  dsimp only
  generalize Path.join folder file.1 = path
  have hmade := addsFolders_makeFolder (Path.parent path) d
  rw [run_bind]
  cases hrun : (makeFolder (Path.parent path)).run.run d with
  | mk r d₁ =>
      rw [hrun] at hmade
      cases r with
      | error f => exact .failed hmade
      | ok _ =>
          dsimp only
          rw [run_write]
          cases hwritten : d₁.tree.write path file.2 with
          | error f => exact .failed hmade
          | ok written =>
              obtain ⟨hplace, rfl⟩ := FileTree.write_eq_ok hwritten
              refine .saved (hmade.grows.trans (.of_set hplace _)) fun p => ?_
              rw [FileTree.fileAt?_set hplace, hmade.files,
                hmade.grows.placeOf]

/-- Saving a file writes where its path leads and nowhere else. -/
theorem Saving.writesOnly {path : String} {bytes : List UInt8} {d : Desk}
    {r : Except Fault Unit × Desk} (h : Saving path bytes d r) :
    d.WritesOnly (fun p => d.tree.placeOf path = p) r.2 := by
  cases h with
  | failed hadds => exact writesOnly_of_addsFolders hadds
  | saved hgrows hfiles =>
      refine ⟨hgrows.home, fun p hp => ?_⟩
      rw [hfiles, if_neg (Ne.symm hp)]

/-- The places that names of files lead to from a folder. -/
def LeadsTo (t : FileTree) (folder : String)
    (files : List (String × List UInt8)) (p : List String) : Prop :=
  ∃ file ∈ files, t.placeOf (Path.join folder file.1) = p

theorem writesFrom_saveAll (t : FileTree) (folder : String)
    (files : List (String × List UInt8)) :
    Along (WritesFrom t.home (LeadsTo t folder files))
      (files.forM (saveFile folder)) := by
  refine along_forM fun file hfile d hhome => ?_
  refine (saving_saveFile folder file d).writesOnly.mono fun p hp => ?_
  exact ⟨file, hfile, by rw [← hp, FileTree.placeOf_eq_of_home hhome]⟩

/-- The bytes of the last of several files that leads to a place. -/
def lastTo? (t : FileTree) (folder : String)
    (files : List (String × List UInt8)) (p : List String) :
    Option (List UInt8) :=
  (files.reverse.find? fun file =>
    t.placeOf (Path.join folder file.1) == p).map Prod.snd

theorem lastTo?_cons (t : FileTree) (folder : String)
    (file : String × List UInt8) (rest : List (String × List UInt8))
    (p : List String) :
    lastTo? t folder (file :: rest) p = (lastTo? t folder rest p).or
      (if p = t.placeOf (Path.join folder file.1) then some file.2
        else none) := by
  unfold lastTo?
  rw [List.reverse_cons, List.find?_append, Option.map_or,
    List.find?_singleton]
  by_cases hp : t.placeOf (Path.join folder file.1) = p
  · rw [if_pos (beq_iff_eq.2 hp), if_pos hp.symm]
    rfl
  · rw [if_neg (mt beq_iff_eq.1 hp), if_neg (Ne.symm hp)]
    rfl

/-- Once files have all been saved, each place has the last of them that leads
there, or what it had before. -/
theorem fileAt?_saveAll {folder : String} {files : List (String × List UInt8)}
    {d d' : Desk}
    (h : (files.forM (saveFile folder)).run.run d = (.ok (), d'))
    (p : List String) :
    d'.tree.fileAt? p
      = (lastTo? d.tree folder files p).or (d.tree.fileAt? p) := by
  induction files generalizing d with
  | nil =>
      obtain rfl : d = d' := (Prod.mk.inj h).2
      rfl
  | cons file rest ih =>
      obtain ⟨⟨⟩, d₁, hfirst, hrest⟩ := bind_eq_ok h
      have hsaving := saving_saveFile folder file d
      rw [hfirst] at hsaving
      cases hsaving with
      | saved hgrows hfiles =>
          have hplaces : lastTo? d₁.tree folder rest p
              = lastTo? d.tree folder rest p := by
            unfold lastTo?
            simp only [hgrows.placeOf]
          rw [ih hrest, hplaces, lastTo?_cons, hfiles, Option.or_assoc]
          by_cases hp : p = d.tree.placeOf (Path.join folder file.1)
          · rw [if_pos hp, if_pos hp, Option.some_or]
          · rw [if_neg hp, if_neg hp, Option.none_or]

-- ============================================================= folders

theorem folderOf_ne {id n : String} (hn : n.toList.head? ≠ some 'v') :
    folderOf id ≠ n := by
  have hhead : (folderOf id).toList.head? = some 'v' := by simp [folderOf]
  intro heq
  exact hn (heq ▸ hhead)

/-- The folder of an id that is no path is one name. -/
theorem isName_folderOf {id : String} (h : '/' ∉ id.toList) :
    Path.IsName (folderOf id) :=
  ⟨folderOf_ne (by decide), folderOf_ne (by decide), by simp [folderOf, h]⟩

theorem placeOf_folderOf (t : FileTree) {id : String} (h : '/' ∉ id.toList) :
    t.placeOf (folderOf id) = t.home ++ [folderOf id] :=
  t.placeOf_name (isName_folderOf h) (folderOf_ne (by decide))

/-- The ids that are given out are no paths. -/
theorem slash_notMem_scan (n : Nat) : '/' ∉ ("scan-" ++ toString n).toList := by
  intro hmem
  have hdigits : '/' ∈ Nat.toDigits 10 n := by
    simpa [Nat.toString_eq_repr, Nat.repr] using hmem
  have hdigit :=
    Nat.isDigit_of_mem_toDigits (by decide) (by decide) hdigits
  exact absurd hdigit (by decide)

end Handler

open Handler

-- ============================================================= uploads

/-- An upload to one of the services. -/
inductive UploadRequest where
  | memory (config : Option String)
  | account (config : Option String) (user : Option User)

namespace UploadRequest

variable (w : World)

/-- What the service does with the files. -/
def handle (files : List (String × List UInt8)) : UploadRequest → Handler Value
  | memory config => MemoryService.upload w files config
  | account config user => AccountService.upload w files config user

/-- Whether the id comes from the store. -/
def asksStore : UploadRequest → Bool
  | memory _ => false
  | account _ user => w.stored && User.isPresent user

/-- How an upload comes by its id. -/
def takeId : UploadRequest → Handler String
  | memory _ => newId
  | account config user =>
    if w.stored && User.isPresent user then
      AccountService.storedId w user (config.filter fun text => !text.isEmpty)
    else newId

/-- What an upload does once its files are saved. -/
def proceed (id : String) : UploadRequest → Handler Value
  | memory config => do
    let settings ← ofOutcome (MemoryService.settingsOf config)
    enter id (.started w.now (folderOf id) none)
    modify fun d =>
      { d with tasks := d.tasks ++ [⟨id, folderOf id, settings, none⟩] }
    begun id
  | account _ user => do
    let owner ← if User.isPresent user then ofOutcome (User.id user)
      else pure (.text "anonymous")
    if w.stored then
      AccountService.mark w (← ofOutcome (AccountService.numberOf id)) "running"
    else enter id (.started w.now (folderOf id) (some owner))
    modify fun d =>
      { d with tasks := d.tasks ++ [⟨id, folderOf id, .usual, user⟩] }
    begun id

/-- Both services make a folder, save the files and proceed, and take the folder
away if that fails. -/
theorem handle_eq (files : List (String × List UInt8)) (u : UploadRequest) :
    u.handle w files = (do
      let id ← u.takeId w
      makeFolder (folderOf id)
      tryCatch (do
        files.forM (saveFile (folderOf id))
        u.proceed w id) fun f => do
          removeFolder (folderOf id)
          refuse 500 f.message) := by
  cases u with
  | memory config => rfl
  | account config user =>
      dsimp only [handle, takeId, AccountService.upload]
      cases w.stored && User.isPresent user <;> rfl

theorem sameFiles_mark (id : Int) (status : String) :
    Along SameFiles (AccountService.mark w id status) :=
  (sameFiles_ofAction _).bind fun _ => along_pure ()

theorem sameFiles_proceed (u : UploadRequest) (id : String) :
    Along SameFiles (u.proceed w id) := by
  have hlast (task : ScanTask) : Along SameFiles (do
      modify fun d => { d with tasks := d.tasks ++ [task] }
      begun id) :=
    Along.bind (fun _ => rfl) fun _ => along_ofOutcome _
  have henter (s : Session) : Along SameFiles (enter id s) := fun _ => rfl
  cases u with
  | memory config =>
      exact (along_ofOutcome _).bind fun _ => (henter _).bind fun _ => hlast _
  | account config user =>
      -- the owner is found in two ways, and where the status is kept differs as
      -- well
      have hstart (owner : Value) : Along SameFiles (do
          if w.stored then
            AccountService.mark w
              (← ofOutcome (AccountService.numberOf id)) "running"
          else enter id (.started w.now (folderOf id) (some owner))
          modify fun d =>
            { d with tasks := d.tasks ++ [⟨id, folderOf id, .usual, user⟩] }
          begun id) := by
        cases w.stored with
        | true =>
            exact (along_ofOutcome _).bind fun n =>
              (sameFiles_mark w n _).bind fun _ => hlast _
        | false => exact (henter _).bind fun _ => hlast _
      dsimp only [proceed]
      cases User.isPresent user with
      | true => exact (along_ofOutcome _).bind hstart
      | false => exact (along_pure _).bind hstart

theorem sameFiles_storedId (user : Option User) (config : Option String) :
    Along SameFiles (AccountService.storedId w user config) := by
  have hlast (owner given : Value) : Along SameFiles (do
      let id ← ofAction (Store.Service.createScan w.now owner
        (.text ("Scan " ++ w.now.minuteText)) given)
      if id.isTruthy then return id.shown
      else refuse 500 "Failed to create scan in database") := by
    refine (sameFiles_ofAction _).bind fun id => ?_
    split
    · exact along_pure _
    · exact fun _ => rfl
  refine (along_ofOutcome _).bind fun owner => ?_
  cases config with
  | some text => exact (along_ofOutcome _).bind (hlast owner)
  | none => exact (along_pure _).bind (hlast owner)

theorem sameFiles_takeId (u : UploadRequest) :
    Along SameFiles (u.takeId w) := by
  cases u with
  | memory config => exact fun _ => rfl
  | account config user =>
      dsimp only [takeId]
      split
      · exact sameFiles_storedId w user _
      · exact fun _ => rfl

variable {w} {u : UploadRequest} {files : List (String × List UInt8)}
    {id : String} {d d₀ : Desk}

/-- An id that does not come from the store is no path. -/
theorem slash_notMem_id (hid : (u.takeId w).run.run d = (.ok id, d₀))
    (hstore : u.asksStore w = false) : '/' ∉ id.toList := by
  have hnew : u.takeId w = newId := by
    cases u with
    | memory config => rfl
    | account config user =>
        dsimp only [asksStore] at hstore
        rw [takeId, hstore, if_neg Bool.false_ne_true]
  rw [hnew] at hid
  have hscan : "scan-" ++ toString (d.given + 1) = id :=
    Except.ok.inj (Prod.mk.inj hid).1
  rw [← hscan]
  exact slash_notMem_scan (d.given + 1)

theorem sameFiles_of_takeId (hid : (u.takeId w).run.run d = (.ok id, d₀)) :
    d₀.tree = d.tree := by
  have htake := sameFiles_takeId w u d
  rw [hid] at htake
  exact htake

/-- All that happens to files once an upload has its id. -/
theorem writesOnly_handle (files : List (String × List UInt8))
    (hid : (u.takeId w).run.run d = (.ok id, d₀)) :
    d.WritesOnly (fun p => d.tree.placeOf (folderOf id) <+: p ∨
      LeadsTo d.tree (folderOf id) files p)
      ((u.handle w files).run.run d).2 := by
  have hbefore : SameFiles d d₀ := sameFiles_of_takeId hid
  rw [handle_eq, run_bind, hid]
  refine hbefore.writesOnly.trans (Along.bind (R := WritesFrom d.tree.home _)
    ?_ (fun _ => Along.tryCatch ?_ fun f => ?_) d₀
    (congrArg FileTree.home hbefore))
  · exact fun d₁ _ => writesOnly_of_addsFolders (addsFolders_makeFolder _ d₁)
  · refine Along.bind (fun d₁ hhome => ?_)
      fun _ d₁ _ => (sameFiles_proceed w u id d₁).writesOnly
    exact (writesFrom_saveAll d.tree _ files d₁ hhome).mono fun p => .inr
  · refine Along.bind (fun d₁ hhome => ?_) fun _ d₁ => refl_of _ d₁
    refine ⟨d₁.tree.home_remove _, fun p hp => FileTree.fileAt?_remove ?_⟩
    rw [FileTree.placeOf_eq_of_home hhome]
    exact mt .inl hp

/-- Where an upload that is accepted has written, and what. -/
theorem fileAt?_handle (hid : (u.takeId w).run.run d = (.ok id, d₀)) {v : Value}
    {d' : Desk} (hok : (u.handle w files).run.run d = (.ok v, d'))
    (p : List String) :
    d'.tree.fileAt? p
      = (lastTo? d.tree (folderOf id) files p).or (d.tree.fileAt? p) := by
  rw [handle_eq] at hok
  obtain ⟨id', d₁, htake, hok⟩ := bind_eq_ok hok
  obtain rfl : id = id' :=
    Except.ok.inj (Prod.mk.inj (hid.symm.trans htake)).1
  obtain ⟨⟨⟩, d₂, hfolder, hok⟩ := bind_eq_ok hok
  have hmade := addsFolders_makeFolder (folderOf id) d₁
  rw [hfolder, sameFiles_of_takeId htake] at hmade
  rw [run_tryCatch] at hok
  cases hrun : (do
      files.forM (saveFile (folderOf id))
      u.proceed w id : Handler Value).run.run d₂ with
  | mk r d₃ =>
      rw [hrun] at hok
      cases r with
      | error f => exact absurd (Prod.mk.inj hok).1 (by simp)
      | ok reply =>
          obtain ⟨⟨⟩, d₄, hsaved, hproceeded⟩ := bind_eq_ok hrun
          have hafter : SameFiles d₄ d' := by
            have hproceed := sameFiles_proceed w u id d₄
            rw [hproceeded, (Prod.mk.inj hok).2] at hproceed
            exact hproceed
          have hplaces : lastTo? d₂.tree (folderOf id) files p
              = lastTo? d.tree (folderOf id) files p := by
            unfold lastTo?
            simp only [hmade.grows.placeOf]
          rw [hafter, fileAt?_saveAll hsaved, hplaces, hmade.files]

/-- An upload writes where the names of its files lead from its folder. That is
inside the folder for names that keep to it, and for no others; nothing else is
written, and if all names keep to the folder, so does the upload. If it is
accepted, each place has the last file that leads there, or what it had
before. -/
theorem writes_where_names_lead (w : World) (u : UploadRequest)
    (files : List (String × List UInt8)) (d d₀ : Desk) (id : String)
    (hid : (u.takeId w).run.run d = (.ok id, d₀))
    (hplain : u.asksStore w = true → '/' ∉ id.toList) :
    (∀ name, (∃ inner, inner ≠ [] ∧
        d.tree.placeOf (Path.join (folderOf id) name)
          = d.tree.home ++ [folderOf id] ++ inner) ↔
      Path.KeepsTo (d.tree.home ++ [folderOf id]) name) ∧
    d.WritesOnly (fun p => d.tree.home ++ [folderOf id] <+: p ∨
      LeadsTo d.tree (folderOf id) files p)
      ((u.handle w files).run.run d).2 ∧
    (∀ v d', (u.handle w files).run.run d = (.ok v, d') → ∀ p,
      d'.tree.fileAt? p
        = (lastTo? d.tree (folderOf id) files p).or (d.tree.fileAt? p)) ∧
    ((∀ file ∈ files,
        Path.KeepsTo (d.tree.home ++ [folderOf id]) file.1) →
      d.WritesOnly (fun p => d.tree.home ++ [folderOf id] <+: p)
        ((u.handle w files).run.run d).2) := by
  have hslash : '/' ∉ id.toList := by
    cases hstore : u.asksStore w with
    | true => exact hplain hstore
    | false => exact slash_notMem_id hid hstore
  have hfolder := placeOf_folderOf d.tree hslash
  have hinside (name : String) : (∃ inner, inner ≠ [] ∧
      d.tree.placeOf (Path.join (folderOf id) name)
        = d.tree.home ++ [folderOf id] ++ inner) ↔
      Path.KeepsTo (d.tree.home ++ [folderOf id]) name := by
    rw [FileTree.placeOf_join, hfolder]
    exact Path.inside_iff_keepsTo _ name
  have hwrites := writesOnly_handle files hid
  rw [hfolder] at hwrites
  refine ⟨hinside, hwrites, fun v d' hok => fileAt?_handle hid hok,
    fun hkeeps => hwrites.mono ?_⟩
  rintro p (hp | ⟨file, hfile, rfl⟩)
  · exact hp
  · obtain ⟨inner, -, hplace⟩ := (hinside file.1).2 (hkeeps file hfile)
    rw [hplace]
    exact List.prefix_append _ _

/-- A world without a store. -/
def storeless : World := ⟨⟨2024, 1, 1, 0, 0, 0, 0⟩, [], true, none, none, false⟩

/-- What comes of the first upload to a service. -/
def firstUpload (u : UploadRequest) (files : List (String × List UInt8)) :
    Except Fault Value × Desk :=
  (u.handle storeless files).run.run (ProductionService.usualDesk [])

/-- Three files whose names take a detour, the second one out of the folder and
back, the third one by the root. -/
def detours : List (String × List UInt8) :=
  [("a/../b.js", [40]), ("../vibeaudit_scan-1_/c.js", [41]),
   ("/work/vibeaudit_scan-1_/b.js", [42])]

/-- All detours end inside the folder, and the upload is accepted. The first and
the last lead to the same place. -/
theorem writes_where_names_lead_detours :
    (∀ file ∈ detours, Path.KeepsTo ["work", "vibeaudit_scan-1_"] file.1) ∧
      (firstUpload (memory none) detours).1.isOk = true ∧
      (ProductionService.usualDesk []).WritesOnly
        (fun p => ["work", "vibeaudit_scan-1_"] <+: p)
        (firstUpload (memory none) detours).2 ∧
      (firstUpload (memory none) detours).2.tree.fileAt?
        ["work", "vibeaudit_scan-1_", "b.js"] = some [42] := by
  have hid : ((memory none).takeId storeless).run.run
      (ProductionService.usualDesk [])
        = (.ok ("scan-" ++ toString 1),
          { ProductionService.usualDesk [] with given := 1 }) := rfl
  have hfolder : (ProductionService.usualDesk []).tree.home
      ++ [folderOf ("scan-" ++ toString 1)]
        = ["work", "vibeaudit_scan-1_"] := by decide
  obtain ⟨-, -, hfiles, hconfined⟩ := writes_where_names_lead storeless
    (memory none) detours (ProductionService.usualDesk []) _ _ hid
    (fun h => absurd h Bool.false_ne_true)
  rw [hfolder] at hconfined
  have hkeeps : ∀ file ∈ detours,
      Path.KeepsTo ["work", "vibeaudit_scan-1_"] file.1 := by
    simp only [detours, List.forall_mem_cons]
    exact ⟨⟨["b.js"], by decide, by decide⟩, ⟨["c.js"], by decide, by decide⟩,
      ⟨["b.js"], by decide, by decide⟩, nofun⟩
  have hok : (firstUpload (memory none) detours).1.isOk = true := by
    decide +kernel
  refine ⟨hkeeps, hok, hconfined hkeeps, ?_⟩
  obtain ⟨v, d', hrun⟩ := exists_of_isOk hok
  rw [firstUpload, hrun, hfiles v d' hrun]
  decide +kernel

/-- A name that climbs out of the folder and one that begins at the root are
written where they lead: both services accept them. -/
theorem upload_escapes :
    (((firstUpload (memory none) [("../evil.js", [40])]).1.isOk = true ∧
        (firstUpload (memory none) [("../evil.js", [40])]).2.tree.fileAt?
          ["work", "evil.js"] = some [40]) ∧
      ((firstUpload (memory none) [("/etc/evil.js", [40])]).1.isOk = true ∧
        (firstUpload (memory none) [("/etc/evil.js", [40])]).2.tree.fileAt?
          ["etc", "evil.js"] = some [40])) ∧
    ((firstUpload (account none none) [("../evil.js", [40])]).1.isOk = true ∧
        (firstUpload (account none none) [("../evil.js", [40])]).2.tree.fileAt?
          ["work", "evil.js"] = some [40]) ∧
      (firstUpload (account none none) [("/etc/evil.js", [40])]).1.isOk = true ∧
        (firstUpload (account none none)
          [("/etc/evil.js", [40])]).2.tree.fileAt? ["etc", "evil.js"]
            = some [40] :=
  ⟨by decide +kernel, by decide +kernel⟩

end UploadRequest

end SourceAudit
