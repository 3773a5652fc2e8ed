/-
What a failed upload leaves behind.

An upload fails if one of its files cannot be saved or if its settings cannot be
read. The files are saved one after another, and each changes what the next one
meets; but all of them are saved just if the system could hold them at the start
(`isOk_saveFiles_iff`). A session is entered only after all that can fail, and
what has been saved goes with the folder (`at?_remove_uploadFolder`).
-/
import SourceAudit.Proofs.FileTree.Saving
import SourceAudit.Proofs.Service.UploadSettings

namespace SourceAudit

/-- Where a name is free, a folder of that name can be made. -/
theorem FileTree.makeFolder_of_free (t : FileTree) {name : String}
    (hname : IsFit name) (hfree : t.at? (t.home ++ [name]) = none) :
    t.makeFolder name = (t.set (t.home ++ [name]) .folder, .ok ()) := by
  have hstart : t.start name = t.home := by
    rw [start, Path.root_of_isName hname.isName]
    rfl
  rw [makeFolder, t.locate_name hname, hfree, Option.elim_none]
  dsimp only
  rw [hstart, Path.names_of_isName hname.isName]
  simp [makeWay, put, hname.dots, hname.short, hfree, bar?_home]

-- ============================================================== saving

/-- From one desk to another nothing has been taken from the files. -/
def Desk.Grows (d d' : Desk) : Prop :=
  d.tree.Grows d'.tree

instance : IsPreorder Desk Desk.Grows where
  refl d := .refl d.tree
  trans _ _ _ hab hbc := FileTree.Grows.trans hab hbc

namespace Handler

/-- The paths that files are saved under. -/
def pathsOf (folder : String) (files : List (String × List UInt8)) :
    List String :=
  files.map fun file => Path.join folder file.1

/-- Saving a file takes nothing away. -/
theorem Saving.grows {path : String} {bytes : List UInt8} {d : Desk}
    {r : Except Fault Unit × Desk} (h : Saving path bytes d r) :
    d.Grows r.2 := by
  cases h with
  | failed hadds => exact hadds.grows
  | saved hgrows _ => exact hgrows

theorem grows_saveFiles (folder : String) (files : List (String × List UInt8)) :
    Along Desk.Grows (files.forM (saveFile folder)) :=
  along_forM fun file _ d => (saving_saveFile folder file d).grows

/-- Saving a file keeps what decides about the ones that are left, or they
cannot all be saved. -/
theorem run_saveFile (folder : String) (file : String × List UInt8) (d : Desk) :
    (∃ d', (saveFile folder file).run.run d = (.ok (), d') ∧ ∀ paths,
        d.tree.CanHold (Path.join folder file.1 :: paths) ↔
          d'.tree.CanHold paths) ∨
      ((∃ f d', (saveFile folder file).run.run d = (.error f, d')) ∧ ∀ paths,
        ¬d.tree.CanHold (Path.join folder file.1 :: paths)) := by
  have hcases := d.tree.save_cases (Path.join folder file.1) file.2
  rw [FileTree.save] at hcases
  unfold saveFile
  dsimp only
  rw [run_bind, run_makeFolder]
  cases hmade : d.tree.makeFolder (Path.parent (Path.join folder file.1)) with
  | mk made r =>
      rw [hmade] at hcases
      cases r with
      | error f =>
          rcases hcases with ⟨-, t', hok, -⟩ | ⟨hnot, -⟩
          · cases hok
          · exact .inr ⟨⟨f, _, rfl⟩,
              fun paths h => hnot (h.takes _ List.mem_cons_self)⟩
      | ok _ =>
          dsimp only at hcases ⊢
          rw [run_write]
          rcases hcases with ⟨htakes, t', hok, hsaved⟩ | ⟨hnot, f, hfails⟩
          · rw [hok]
            exact .inl ⟨_, rfl,
              fun paths => FileTree.canHold_cons_iff htakes hsaved⟩
          · rw [hfails]
            exact .inr ⟨⟨f, _, rfl⟩,
              fun paths h => hnot (h.takes _ List.mem_cons_self)⟩

/-- All files are saved just if the system can hold them. -/
theorem isOk_saveFiles_iff (folder : String)
    (files : List (String × List UInt8)) (d : Desk) :
    ((files.forM (saveFile folder)).run.run d).1.isOk = true ↔
      d.tree.CanHold (pathsOf folder files) := by
  induction files generalizing d with
  | nil => exact iff_of_true rfl (FileTree.canHold_nil _)
  | cons file rest ih =>
      have hpaths : pathsOf folder (file :: rest)
          = Path.join folder file.1 :: pathsOf folder rest := rfl
      have hwork : (file :: rest).forM (saveFile folder)
          = (do saveFile folder file; rest.forM (saveFile folder)) := rfl
      rw [hwork, run_bind, hpaths]
      rcases run_saveFile folder file d with
        ⟨d₁, hrun, hkeeps⟩ | ⟨⟨f, d₁, hrun⟩, hnot⟩
      · rw [hrun, hkeeps]
        exact ih d₁
      · rw [hrun]
        exact iff_of_false Bool.false_ne_true (hnot _)

end Handler

-- ============================================================ settings

namespace AuditSettings

/-- A text that holds settings: it is JSON for a record, and all its entries are
known. -/
def Holds (text : String) : Prop :=
  ∃ entries, Value.ofJson text = .ok (.record entries) ∧
    ∀ e ∈ entries, e.1 ∈ usual.fields.map Prod.fst

theorem isOk_ofEntries_iff (entries : List (String × Value)) :
    (ofEntries entries).isOk = true ↔ ∀ e ∈ entries,
      e.1 ∈ usual.fields.map Prod.fst := by
  have hfind :
    (entries.find? fun e =>
      !(form.required ++ form.optional).contains e.1) = none ↔
      ∀ e ∈ entries, e.1 ∈ usual.fields.map Prod.fst := by
    simp [form]
  rw [← hfind, ofEntries, Form.check]
  cases entries.find? fun e =>
    !(form.required ++ form.optional).contains e.1 with
  | none => exact iff_of_true rfl rfl
  | some e => exact iff_of_false Bool.false_ne_true (by simp)

theorem isOk_ofJson_iff (text : String) : (ofJson text).isOk = true ↔
    Holds text := by
  unfold Holds
  rw [ofJson]
  cases Value.ofJson text with
  | error f => exact iff_of_false Bool.false_ne_true (by simp)
  | ok v =>
      cases v with
      | record entries =>
          show (ofEntries entries).isOk = true ↔ _
          rw [isOk_ofEntries_iff]
          simp
      | _ => exact iff_of_false Bool.false_ne_true (by simp)

end AuditSettings

theorem MemoryService.isOk_settingsOf_iff (config : Option String) :
    (settingsOf config).isOk = true ↔
      ∀ text, config = some text → text ≠ "" → AuditSettings.Holds text := by
  cases config with
  | none => exact iff_of_true rfl nofun
  | some text =>
      by_cases hempty : text = ""
      · subst hempty
        refine iff_of_true rfl ?_
        intro text htext hne
        exact absurd (Option.some.inj htext).symm hne
      · have hread : settingsOf (some text) = AuditSettings.ofJson text := by
          simp [settingsOf, Option.filter, hempty]
        rw [hread, AuditSettings.isOk_ofJson_iff]
        simp [hempty]

theorem Sessions.put_of_new {all : Sessions} {id : String}
    (h : all.get? id = none) (s : Session) :
    all.put id s = all ++ [(id, s)] := by
  rw [get?, Option.map_eq_none_iff, List.find?_eq_none] at h
  rw [put, if_neg]
  intro hany
  obtain ⟨e, he, hid⟩ := List.any_eq_true.1 hany
  exact h e he hid

-- ============================================================= uploads

namespace MemoryService

open Handler

/-- The place of the folder of the next upload. -/
def uploadPlace (d : Desk) : List String :=
  d.tree.home ++ [folderOf (uploadedId d)]

/-- A desk at which an upload finds its id unused, and for its folder a name
that the system takes and nothing has. -/
structure Unused (d : Desk) : Prop where
  session : d.sessions.get? (uploadedId d) = none
  folder : d.tree.at? (uploadPlace d) = none
  fit : FileTree.IsFit (folderOf (uploadedId d))

/-- An upload that can be taken: its files can be saved in a new folder, and
what comes with it holds settings, unless it is empty. -/
structure CanTake (d : Desk) (files : List (String × List UInt8))
    (config : Option String) : Prop where
  files : (d.tree.set (uploadPlace d) .folder).CanHold
    (pathsOf (folderOf (uploadedId d)) files)
  settings : ∀ text, config = some text → text ≠ "" → AuditSettings.Holds text

section Uploads

variable {d : Desk}

/-- The desk at which the files of an upload are saved. -/
def withFolder (d : Desk) : Desk :=
  { d with
    given := d.given + 1
    tree := d.tree.set (uploadPlace d) .folder }

theorem run_makeFolder_of_unused (hunused : Unused d) :
    (makeFolder (folderOf (uploadedId d))).run.run
        { d with given := d.given + 1 }
      = (.ok (), withFolder d) := by
  have hmade := d.tree.makeFolder_of_free hunused.fit hunused.folder
  rw [run_makeFolder, hmade]
  rfl

/-- An upload can be taken just if its files are saved and its settings are
read. -/
theorem canTake_iff (files : List (String × List UInt8))
    (config : Option String) :
    CanTake d files config ↔
      ((files.forM (saveFile (folderOf (uploadedId d)))).run.run
        (withFolder d)).1.isOk = true ∧ (settingsOf config).isOk = true := by
  rw [isOk_saveFiles_iff, isOk_settingsOf_iff]
  exact ⟨fun h => ⟨h.files, h.settings⟩, fun h => ⟨h.1, h.2⟩⟩

/-- The folder of an upload is still there after its files have been saved, and
nothing is left of it once it is taken away. -/
theorem at?_remove_uploadFolder (hunused : Unused d) {d₂ : Desk}
    (hgrows : (withFolder d).Grows d₂) {p : List String}
    (h : uploadPlace d <+: p) :
    (d₂.tree.remove (folderOf (uploadedId d))).at? p = none := by
  have hhome : d₂.tree.home = d.tree.home := hgrows.home
  have hplace : d₂.tree.home ++ [folderOf (uploadedId d)] = uploadPlace d := by
    rw [hhome, uploadPlace]
  have hbelow : ¬uploadPlace d <+: d.tree.home :=
    FileTree.not_prefix_of_none hunused.folder
  have hthere : ((withFolder d).tree.at? (uploadPlace d)).isSome = true := by
    show (FileTree.at? (FileTree.set _ _ _) _).isSome = true
    rw [FileTree.at?_set hbelow, if_pos rfl]
    rfl
  obtain ⟨entry, hentry⟩ :=
    Option.isSome_iff_exists.1 (hgrows.stays _ hthere)
  have hlocate := d₂.tree.locate_name hunused.fit
  rw [hplace, hentry] at hlocate
  exact FileTree.at?_remove hlocate (hhome ▸ hbelow) h

/-- An upload that can be taken is begun: one session is started, and one scan
waits, both of its id and folder. Any other is refused; neither a session nor a
scan is added, and nothing is left of its folder. -/
theorem upload_begun_or_undone (w : World) (files : List (String × List UInt8))
    (config : Option String) (d : Desk) (hunused : Unused d) :
    (CanTake d files config → ∃ s settings d',
      (upload w files config).run.run d
          = (.ok (startedReply (uploadedId d)), d') ∧
        d'.sessions = d.sessions ++ [(uploadedId d, s)] ∧
        s.status = "started" ∧ s.progress = some 0 ∧
        s.folder = some (folderOf (uploadedId d)) ∧
        d'.tasks = d.tasks ++
          [⟨uploadedId d, folderOf (uploadedId d), settings, none⟩]) ∧
    (¬CanTake d files config → ∃ why d',
      (upload w files config).run.run d = (.error (.refused 500 why), d') ∧
        d'.sessions = d.sessions ∧ d'.tasks = d.tasks ∧
        ∀ p, uploadPlace d <+: p → d'.tree.at? p = none) := by
  obtain ⟨hsessions, htasks, -⟩ :=
    keeps_forM (keeps_saveFile (folderOf (uploadedId d))) files (withFolder d)
  have hgrows :=
    grows_saveFiles (folderOf (uploadedId d)) files (withFolder d)
  rw [run_upload_of_made w files config (run_makeFolder_of_unused hunused),
    canTake_iff]
  cases hsaved : (files.forM (saveFile (folderOf (uploadedId d)))).run.run
      (withFolder d) with
  | mk saved d₂ =>
      rw [hsaved] at hsessions htasks hgrows
      -- the desk that a refusal leaves is the same whatever has failed
      have hundone (f : Fault) : ∃ why d', ((.error (.refused 500 f.message),
          { d₂ with tree := d₂.tree.remove (folderOf (uploadedId d)) }) :
              Except Fault Value × Desk)
            = (.error (.refused 500 why), d') ∧ d'.sessions = d.sessions ∧
              d'.tasks = d.tasks ∧
              ∀ p, uploadPlace d <+: p → d'.tree.at? p = none := by
        refine ⟨_, _, rfl, hsessions, htasks, ?_⟩
        intro p hp
        dsimp only
        exact at?_remove_uploadFolder hunused hgrows hp
      cases saved with
      | error f =>
          exact ⟨fun h => absurd h.1 Bool.false_ne_true, fun _ => hundone f⟩
      | ok _ =>
          cases settingsOf config with
          | error f =>
              exact ⟨fun h => absurd h.2 Bool.false_ne_true, fun _ => hundone f⟩
          | ok c =>
              constructor
              · intro _
                refine ⟨.started w.now (folderOf (uploadedId d)) none, c, _,
                  rfl, ?_, rfl, rfl, rfl, ?_⟩
                · rw [hsessions]
                  exact Sessions.put_of_new hunused.session _
                · rw [htasks]
                  rfl
              · intro hnot
                exact absurd ⟨rfl, rfl⟩ hnot

end Uploads

open ProductionService (usualDesk)
open UploadRequest (storeless)

/-- A name with more letters than a name may have. -/
def longName : String := String.ofList (List.replicate 300 'a')

theorem not_canTake_longName (d : Desk) (config : Option String) :
    ¬CanTake d [(longName, [])] config := by
  intro h
  have hletters : longName.toList = List.replicate 300 'a' :=
    String.toList_ofList
  have hname : Path.IsName longName := by
    refine ⟨?_, ?_, ?_⟩
    · intro heq
      exact absurd (heq ▸ hletters) (by decide)
    · intro heq
      exact absurd (heq ▸ hletters) (by decide)
    · rw [hletters]
      decide
  have hmem : longName ∈ Path.names
      (Path.join (folderOf (uploadedId d)) longName) := by
    rw [Path.names_join _ (Path.root_of_isName hname),
      Path.names_of_isName hname]
    simp
  have hshort := (h.files.takes _ List.mem_cons_self).way.short longName hmem
  rw [Path.isOverlong, Path.bytesIn, hletters] at hshort
  exact absurd hshort (by decide +kernel)

/-- Files that cannot be saved together, or not at all: one needs a folder where
another leads; a name leads to a folder, or into one that takes nothing in; a
name has a zero in it, and one is too long. -/
def unsavable : List (List (String × List UInt8)) :=
  [[("a/b.js", [40]), ("a", [41])], [("/tmp", [])], [("/proc/x", [])],
   [("a\x00.js", [])]] ++ [[(longName, [])]]

/-- Settings with one entry. -/
def fivePerFile : String := "\x7b\"max_issues_per_file\": 5\x7d"

/-- The first upload to a service, with files that cannot be saved and with one
that can. -/
theorem upload_begun_or_undone_unsavable :
    (∀ files ∈ unsavable,
      ¬CanTake (usualDesk []) files (some fivePerFile) ∧ ∃ why d',
        (upload storeless files (some fivePerFile)).run.run (usualDesk [])
            = (.error (.refused 500 why), d') ∧
          d'.sessions = [] ∧ d'.tasks = [] ∧
          ∀ p, ["work", "vibeaudit_scan-1_"] <+: p → d'.tree.at? p = none) ∧
    CanTake (usualDesk []) [("/tmp/a.js", [40])] (some fivePerFile) ∧
      ∃ s settings d',
        (upload storeless [("/tmp/a.js", [40])] (some fivePerFile)).run.run
            (usualDesk []) = (.ok (startedReply "scan-1"), d') ∧
          d'.sessions = [("scan-1", s)] ∧ s.status = "started" ∧
          s.progress = some 0 ∧ s.folder = some "vibeaudit_scan-1_" ∧
          d'.tasks = [⟨"scan-1", "vibeaudit_scan-1_", settings, none⟩] := by
  have hid : uploadedId (usualDesk []) = "scan-1" := by decide
  have hfolder : folderOf "scan-1" = "vibeaudit_scan-1_" := by decide
  have hplace : uploadPlace (usualDesk []) = ["work", "vibeaudit_scan-1_"] := by
    decide
  have hfit : FileTree.IsFit (folderOf (uploadedId (usualDesk []))) := by
    rw [hid, hfolder]
    exact ⟨⟨by decide, by decide, by decide⟩, by decide, rfl, by decide⟩
  have hunused : Unused (usualDesk []) := ⟨rfl, rfl, hfit⟩
  have hnot : ∀ files ∈ unsavable,
      ¬CanTake (usualDesk []) files (some fivePerFile) := by
    have hothers : ∀ files ∈ unsavable.dropLast,
        ¬CanTake (usualDesk []) files (some fivePerFile) := by
      simp only [canTake_iff]
      decide +kernel
    intro files hfiles
    rcases List.mem_append.1 hfiles with hfiles | hlong
    · exact hothers files hfiles
    · rw [List.mem_singleton.1 hlong]
      exact not_canTake_longName _ _
  have hcan : CanTake (usualDesk []) [("/tmp/a.js", [40])]
      (some fivePerFile) := by
    rw [canTake_iff]
    decide +kernel
  refine ⟨fun files hfiles => ⟨hnot files hfiles, ?_⟩, hcan, ?_⟩
  · have hundone := (upload_begun_or_undone storeless files (some fivePerFile)
      _ hunused).2 (hnot files hfiles)
    rw [hplace] at hundone
    exact hundone
  · have hbegun := (upload_begun_or_undone storeless [("/tmp/a.js", [40])]
      (some fivePerFile) _ hunused).1 hcan
    rw [hid, hfolder] at hbegun
    exact hbegun

end MemoryService

end SourceAudit
