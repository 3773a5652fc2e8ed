/-
What the settings of an upload do to its scan.

An upload may come with settings. They are read, handed to the run of the scan,
and an auditor is made from them; if that works, nothing of them is used again.
So a service to which uploads come with settings is at all times as the one to
which they come without (`Service.unconfigured_after`): each event does the same
to both (`Service.step_unconfigured`). What a run enters in the session of its
scan is what the security scan gives for the files of its folder (`run_stores`),
and such a result keeps to all settings that could have been asked for just if
it is empty (`keepsTo_all_iff`).
-/
import SourceAudit.Proofs.Service.Admission
import SourceAudit.Proofs.Service.Interleaving
import SourceAudit.Proofs.Value.Json.RoundTrip

namespace SourceAudit

-- ============================================================ settings

namespace AuditSettings

/-- Settings that an auditor can be made from. -/
def Work (c : AuditSettings) : Prop :=
  (Auditor.ofSettings c).isOk = true

instance (c : AuditSettings) : Decidable c.Work :=
  inferInstanceAs (Decidable (_ = true))

/-- The usual settings in place of any that work. -/
def unconfigured (c : AuditSettings) : AuditSettings :=
  if c.Work then usual else c

theorem work_usual : usual.Work := rfl

theorem Work.exists_auditor {c : AuditSettings} (h : c.Work) :
    ∃ a, Auditor.ofSettings c = .ok a := by
  unfold Work at h
  cases hmade : Auditor.ofSettings c with
  | ok a => exact ⟨a, rfl⟩
  | error f =>
      rw [hmade] at h
      cases h

end AuditSettings

open AuditSettings (usual)

theorem Sessions.get?_put_self (all : Sessions) (id : String) (s : Session) :
    (all.put id s).get? id = some s := by
  rw [get?_put, if_pos rfl]

namespace MemoryService

open Handler

-- ============================================================= uploads

/-- An upload whose folder has been made: it fails if its files cannot be saved
or its settings cannot be read, and then its folder goes; otherwise its session
is started and its scan waits. -/
theorem run_upload_of_made (w : World) (files : List (String × List UInt8))
    (config : Option String) {d d₁ : Desk}
    (hmade : (makeFolder (folderOf (uploadedId d))).run.run
      { d with given := d.given + 1 } = (.ok (), d₁)) :
    (upload w files config).run.run d
      = match (files.forM (saveFile (folderOf (uploadedId d)))).run.run d₁ with
        | (.error f, d₂) => (.error (.refused 500 f.message),
            { d₂ with tree := d₂.tree.remove (folderOf (uploadedId d)) })
        | (.ok _, d₂) =>
          match settingsOf config with
          | .error f => (.error (.refused 500 f.message),
              { d₂ with tree := d₂.tree.remove (folderOf (uploadedId d)) })
          | .ok c => (.ok (startedReply (uploadedId d)), { d₂ with
              sessions := d₂.sessions.put (uploadedId d)
                (.started w.now (folderOf (uploadedId d)) none)
              tasks :=
                d₂.tasks ++
                  [⟨uploadedId d, folderOf (uploadedId d), c, none⟩] }) := by
  have hnew : newId.run.run d
      = (.ok (uploadedId d), { d with given := d.given + 1 }) := rfl
  unfold upload
  simp only [run_bind, hnew, hmade, run_tryCatch]
  cases (files.forM (saveFile (folderOf (uploadedId d)))).run.run d₁ with
  | mk saved d₂ =>
      cases saved with
      | error f => rfl
      | ok _ =>
          cases settingsOf config with
          | error f => rfl
          | ok c =>
              simp only [run_ofOutcome, run_begun]
              rfl

/-- What can come of an upload. Its files cannot be saved, and then it fails
whatever comes with it; or they are saved, and then the settings decide: it
fails if they cannot be read, and otherwise its session is started and its scan
waits with them. -/
theorem upload_cases (w : World) (files : List (String × List UInt8))
    (d : Desk) :
    (∃ (f : Fault) (d₁ : Desk), d₁.tasks = d.tasks ∧
      ∀ config, (upload w files config).run.run d = (.error f, d₁)) ∨
    ∃ d₁ : Desk, d₁.tasks = d.tasks ∧ ∀ config,
      (upload w files config).run.run d
      = match settingsOf config with
        | .error f => (.error (.refused 500 f.message),
            { d₁ with tree := d₁.tree.remove (folderOf (uploadedId d)) })
        | .ok c => (.ok (startedReply (uploadedId d)), { d₁ with
            sessions := d₁.sessions.put (uploadedId d)
              (.started w.now (folderOf (uploadedId d)) none)
            tasks :=
              d₁.tasks ++
                [⟨uploadedId d, folderOf (uploadedId d), c, none⟩] }) := by
  have hnew : newId.run.run d
      = (.ok (uploadedId d), { d with given := d.given + 1 }) := rfl
  obtain ⟨-, hkept, -⟩ :=
    keeps_makeFolder (folderOf (uploadedId d)) { d with given := d.given + 1 }
  cases hmade : (makeFolder (folderOf (uploadedId d))).run.run
      { d with given := d.given + 1 } with
  | mk made d₁ =>
      rw [hmade] at hkept
      cases made with
      | error f =>
          refine .inl ⟨f, d₁, hkept, fun config => ?_⟩
          unfold upload
          simp only [run_bind, hnew, hmade]
      | ok _ =>
          obtain ⟨-, hkept', -⟩ :=
            keeps_forM (keeps_saveFile (folderOf (uploadedId d))) files d₁
          simp only [run_upload_of_made w files _ hmade]
          cases hsaved :
            (files.forM (saveFile (folderOf (uploadedId d)))).run.run d₁ with
          | mk saved d₂ =>
              rw [hsaved] at hkept'
              cases saved with
              | error f =>
                  exact .inl ⟨.refused 500 f.message,
                    { d₂ with
                      tree := d₂.tree.remove (folderOf (uploadedId d)) },
                    hkept'.trans hkept, fun _ => rfl⟩
              | ok _ => exact .inr ⟨d₂, hkept'.trans hkept, fun _ => rfl⟩

/-- A scan that waits without the settings it came with. -/
def unconfiguredTask (t : ScanTask) : ScanTask :=
  { t with settings := t.settings.unconfigured }

/-- Nothing in place of settings that work. -/
def unconfiguredText (config : Option String) : Option String :=
  match settingsOf config with
  | .ok c => if c.Work then none else config
  | .error _ => config

theorem settingsOf_none : settingsOf none = .ok usual := rfl

/-- The scan of an upload, as it waits with settings. -/
def waiting (d : Desk) (c : AuditSettings) : ScanTask :=
  ⟨uploadedId d, folderOf (uploadedId d), c, none⟩

/-- An upload that is accepted without settings is accepted with any that can be
read. Its session is started, and its scan waits with them. -/
theorem run_upload_accepted {w : World} {files : List (String × List UInt8)}
    {d d₁ : Desk} {v : Value} (hidle : d.tasks = [])
    (hok : (upload w files none).run.run d = (.ok v, d₁)) :
    d₁.tasks = [waiting d usual] ∧
      (∃ s, d₁.sessions.get? (uploadedId d) = some s) ∧
      ∀ config c, settingsOf config = .ok c →
        (upload w files config).run.run d
          = (.ok v, { d₁ with tasks := [waiting d c] }) := by
  rcases upload_cases w files d with ⟨f, d₂, -, hrun⟩ | ⟨d₂, htasks, hrun⟩
  · rw [hrun] at hok
    cases (Prod.mk.inj hok).1
  · replace htasks : d₂.tasks = [] := htasks.trans hidle
    have hnone := hrun none
    rw [settingsOf_none, hok, htasks] at hnone
    obtain ⟨hv, rfl⟩ := Prod.mk.inj hnone
    refine ⟨rfl, ⟨_, Sessions.get?_put_self _ _ _⟩, fun config c hconfig => ?_⟩
    rw [hrun, hconfig, htasks, hv]
    rfl

theorem unconfiguredText_of_work {config : Option String} {c : AuditSettings}
    (h : settingsOf config = .ok c) (hwork : c.Work) :
    unconfiguredText config = none := by
  rw [unconfiguredText, h]
  exact if_pos hwork

/-- An upload without the settings that work does the same, only that its scan
waits without them. -/
theorem run_upload_unconfigured (w : World) (files : List (String × List UInt8))
    (config : Option String) {d : Desk} (hidle : d.tasks = []) :
    (upload w files (unconfiguredText config)).run.run d
      = (((upload w files config).run.run d).1,
        { ((upload w files config).run.run d).2 with
          tasks :=
            ((upload w files config).run.run d).2.tasks.map
              unconfiguredTask }) := by
  rcases upload_cases w files d with ⟨f, d₁, htasks, hrun⟩ | ⟨d₁, htasks, hrun⟩
  · rw [hrun, hrun, htasks, hidle, List.map_nil, ← hidle, ← htasks]
  · rw [hrun, hrun]
    cases hconfig : settingsOf config with
    | error f =>
        have hsame : unconfiguredText config = config := by
          rw [unconfiguredText, hconfig]
        rw [hsame, hconfig]
        dsimp only
        rw [htasks, hidle, List.map_nil]
    | ok c =>
        by_cases hwork : c.Work
        · rw [unconfiguredText_of_work hconfig hwork, settingsOf_none]
          dsimp only
          rw [htasks, hidle]
          simp [unconfiguredTask, AuditSettings.unconfigured, hwork]
        · have hsame : unconfiguredText config = config := by
            rw [unconfiguredText, hconfig]
            exact if_neg hwork
          rw [hsame, hconfig]
          dsimp only
          rw [htasks, hidle]
          simp [unconfiguredTask, AuditSettings.unconfigured, hwork]

-- ================================================================ runs

/-- A stretch of a run makes an auditor from the settings, and that is all it
does with them. -/
theorem advance_unconfigured (w : World) (t : ScanTask)
    (found : Outcome (List Finding)) (p : Point) :
    advance w (unconfiguredTask t) found p = advance w t found p := by
  by_cases hwork : t.settings.Work
  · have htask : unconfiguredTask t = { t with settings := usual } := by
      rw [unconfiguredTask, AuditSettings.unconfigured, if_pos hwork]
    rw [htask]
    cases p with
    | opened =>
        obtain ⟨a, ha⟩ := hwork.exists_auditor
        obtain ⟨b, hb⟩ := AuditSettings.work_usual.exists_auditor
        unfold advance
        rw [ha, hb]
        rfl
    | queued => rfl
    | listed files => rfl
    | searching files => rfl
    | searched files findings => rfl
    | closing => rfl
    | ended => rfl
  · rw [unconfiguredTask, AuditSettings.unconfigured, if_neg hwork]

/-- A run without the settings it came with. -/
def Run.unconfigured (r : Run) : Run :=
  { r with task := unconfiguredTask r.task }

theorem Run.resume_unconfigured (r : Run) (w : World) (arrived : Bool)
    (found : Outcome (List Finding)) (d : Desk) :
    r.unconfigured.resume w arrived found d
      = ((r.resume w arrived found d).1.unconfigured,
        (r.resume w arrived found d).2) := by
  obtain ⟨t, p, news⟩ := r
  unfold resume unconfigured
  cases news with
  | some b => rfl
  | none =>
      dsimp only
      rw [advance_unconfigured]
      cases (advance w t found p).run.run d with
      | mk out d' => cases out <;> rfl

-- =========================================================== histories

/-- What happens at a service, without the settings that work. -/
def Event.unconfigured : Event → Event
  | .upload w files config => .upload w files (unconfiguredText config)
  | e => e

namespace Service

/-- The service without the settings its runs came with. -/
def unconfigured (s : Service) : Service :=
  { s with runs := s.runs.map Run.unconfigured }

/-- Work that leaves no scan waiting starts none, with settings or without. -/
theorem work_unconfigured {α : Type} {s : Service} {h : Handler α}
    (hidle : (h.run.run s.desk).2.tasks = []) :
    (s.work h).unconfigured = s.unconfigured.work h := by
  unfold work unconfigured
  dsimp only
  rw [hidle]
  simp

/-- An event does the same to a service whether settings come with it or not. -/
theorem step_unconfigured {s : Service} (hidle : s.desk.tasks = [])
    (e : Event) :
    (s.step e).unconfigured = s.unconfigured.step e.unconfigured := by
  cases e with
  | upload w files config =>
      show (s.work (upload w files config)).unconfigured
        = s.unconfigured.work (upload w files (unconfiguredText config))
      unfold work unconfigured
      dsimp only
      rw [run_upload_unconfigured w files config hidle]
      simp only [List.map_append, List.map_map]
      rfl
  | resume place w arrived found =>
      have hruns : s.unconfigured.runs[place]?
          = s.runs[place]?.map Run.unconfigured :=
        List.getElem?_map
      unfold step Event.unconfigured
      dsimp only
      rw [hruns]
      cases s.runs[place]? with
      | none => rfl
      | some r =>
          have hresume := r.resume_unconfigured w arrived found s.desk
          show (⟨_, (s.runs.set place _).map Run.unconfigured⟩ : Service)
            = ⟨(r.unconfigured.resume w arrived found s.desk).2,
              (s.runs.map Run.unconfigured).set place
                (r.unconfigured.resume w arrived found s.desk).1⟩
          rw [hresume, List.map_set]
  | status id =>
      exact work_unconfigured ((keeps_status id s.desk).2.1.trans hidle)
  | results w id =>
      exact work_unconfigured ((keeps_results w id s.desk).2.1.trans hidle)
  | cleanup id =>
      exact work_unconfigured ((cleanup_erases id s.desk).2.1.trans hidle)
  | connect client scan => rfl
  | disconnect client scan => rfl

theorem steps_unconfigured {s : Service} (h : s.Sound) (events : List Event) :
    (s.steps events).unconfigured
      = s.unconfigured.steps (events.map Event.unconfigured) := by
  induction events generalizing s with
  | nil => rfl
  | cons e rest ih =>
      show ((s.step e).steps rest).unconfigured
        = (s.unconfigured.step e.unconfigured).steps
          (rest.map Event.unconfigured)
      rw [ih (h.step e), step_unconfigured h.idle]

/-- After any events the service is as if settings that work had never come. -/
theorem unconfigured_after (tree : FileTree) (events : List Event) :
    (after tree events).unconfigured
      = after tree (events.map Event.unconfigured) :=
  steps_unconfigured (sound_opening tree) events

end Service

-- ============================================================= results

/-- The result of a scan of files: what the security scan gives, or what stands
in for it. -/
def resultOf (w : World) (tree : FileTree) (files : List String) :
    Outcome ScanResult :=
  match search w tree files with
  | .ok findings => .ok (gathered files findings)
  | .error why => fallback w files why

/-- The result of a scan of a folder. -/
def scanOf (w : World) (tree : FileTree) (folder : String) :
    Outcome ScanResult :=
  resultOf w tree (filesOf tree folder)

/-- How a session ends whose scan gave something, or failed. -/
def EndsWith (given : Outcome ScanResult) (s : Session) : Prop :=
  match given with
  | .ok r => s.status = "completed" ∧ s.result = some r
  | .error f => s.status = "failed" ∧ s.message = some f.message

section Run

variable {w : World} {t : ScanTask} {d : Desk} {s : Session}
    {given : Outcome ScanResult}

/-- So many stretches from a point lead to such an end of the session. -/
def Yields (w : World) (t : ScanTask) (given : Outcome ScanResult)
    (stretches : Nat) (p : Point) (d : Desk) : Prop :=
  ∃ d' s', (runFrom w t stretches p).run.run d = (.ok (), d') ∧
    d'.sessions.get? t.id = some s' ∧ EndsWith given s'

/-- One stretch, after which its message is delivered, and then the others. -/
theorem yields_succ {n : Nat} {p next : Point} {news : Option Broadcast}
    {d₁ : Desk}
    (hrun : (advance w t (search w d.tree p.files) p).run.run d
      = (.ok (next, news), d₁))
    (hrest : ∀ live, Yields w t given n next { d₁ with live := live }) :
    Yields w t given (n + 1) p d := by
  obtain ⟨live, hlive⟩ : ∃ live, (runFrom w t (n + 1) p).run.run d
      = (runFrom w t n next).run.run { d₁ with live := live } := by
    rw [runFrom, run_get_bind, run_bind, hrun]
    cases news with
    | none => exact ⟨d₁.live, rfl⟩
    | some b => exact ⟨_, rfl⟩
  obtain ⟨d', s', hrest, hends⟩ := hrest live
  exact ⟨d', s', hlive.trans hrest, hends⟩

/-- At the last points the session has ended. -/
theorem yields_last {p : Point} (hp : p = .closing ∨ p = .ended)
    (hs : d.sessions.get? t.id = some s) (hends : EndsWith given s) (n : Nat) :
    Yields w t given n p d := by
  induction n generalizing p d with
  | zero => exact ⟨d, s, rfl, hs, hends⟩
  | succ n ih =>
      have hrun : (advance w t (search w d.tree p.files) p).run.run d
          = (.ok (.ended, none), d) := by
        rcases hp with rfl | rfl <;> rfl
      exact yields_succ hrun fun live => ih (.inr rfl) hs

/-- Work that goes well is not held up by its guard. -/
theorem run_guarded_ok {work : Handler (Point × Option Broadcast)}
    {x : Point × Option Broadcast} {d' : Desk}
    (h : work.run.run d = (.ok x, d')) :
    (guarded w t work).run.run d = (.ok x, d') := by
  unfold guarded
  rw [run_tryCatch, h]

/-- A stretch that enters a result leads to it. -/
theorem yields_completed (h : d.sessions.get? t.id = some s) {p : Point}
    {r : ScanResult} {work : Handler (Point × Option Broadcast)}
    (hrun : advance w t (search w d.tree p.files) p = guarded w t work)
    (hwork : work.run.run d = (complete w t r).run.run d) (n : Nat) :
    Yields w t (.ok r) (n + 1) p d := by
  obtain ⟨news, hcomplete⟩ :=
    run_change_announce (w := w) h (fun s => s.completed w.now r)
      .closing "completed" 100 ""
  have hends : EndsWith (.ok r) (s.completed w.now r) := ⟨rfl, rfl⟩
  refine yields_succ
    (by rw [hrun]; exact run_guarded_ok (hwork.trans hcomplete)) fun live => ?_
  exact yields_last (.inl rfl) (Sessions.get?_put_self _ _ _) hends n

/-- A stretch that fails before it has changed anything leads to its failure. -/
theorem yields_failed (h : d.sessions.get? t.id = some s) {p : Point}
    {f : Fault} {work : Handler (Point × Option Broadcast)}
    (hrun : advance w t (search w d.tree p.files) p = guarded w t work)
    (hwork : work.run.run d = (.error f, d)) (n : Nat) :
    Yields w t (.error f) (n + 1) p d := by
  obtain ⟨news, hfail⟩ :=
    run_change_announce (w := w) h (fun s => s.failed w.now f.message)
      .closing "failed" 0 f.message
  have hends : EndsWith (.error f) (s.failed w.now f.message) := ⟨rfl, rfl⟩
  have hguarded : (guarded w t work).run.run d
      = (.ok (.closing, news), { d with
          sessions := d.sessions.put t.id (s.failed w.now f.message) }) := by
    unfold guarded
    rw [run_tryCatch, hwork]
    exact hfail
  refine yields_succ (by rw [hrun]; exact hguarded) fun live => ?_
  exact yields_last (.inl rfl) (Sessions.get?_put_self _ _ _) hends n

theorem yields_searched (h : d.sessions.get? t.id = some s)
    (files : List String) (findings : List Finding) (n : Nat) :
    Yields w t (.ok (gathered files findings)) (n + 1)
      (.searched files findings) d :=
  yields_completed h rfl rfl n

/-- Where the security scan is waited for, what it gives is entered, or what
stands in. -/
theorem yields_searching (h : d.sessions.get? t.id = some s)
    (files : List String) (n : Nat) :
    Yields w t (resultOf w d.tree files) (n + 2) (.searching files) d := by
  unfold resultOf
  cases hfound : search w d.tree files with
  | ok findings =>
      obtain ⟨news, hrun⟩ := run_takeAnswer (w := w) files h findings
      have hadvance :
        (advance w t (search w d.tree files) (.searching files)).run.run d
          = (.ok (.searched files findings, news),
            { d with
              sessions := d.sessions.put t.id { s with progress := some 90 } })
          := by
        rw [hfound]
        exact run_guarded_ok hrun
      apply yields_succ (p := .searching files) hadvance
      intro live
      exact yields_searched (Sessions.get?_put_self _ _ _) files findings n
  | error why =>
      have hadvance : advance w t (search w d.tree files) (.searching files)
          = guarded w t (takeAnswer w t files (.error why)) := by
        rw [hfound]
        rfl
      have hrun := run_takeAnswer_error (w := w) (t := t) (d := d) files why
      dsimp only
      cases hmade : fallback w files why with
      | ok r =>
          rw [hmade] at hrun
          exact yields_completed (p := .searching files) h hadvance hrun (n + 1)
      | error f =>
          rw [hmade] at hrun
          exact yields_failed (p := .searching files) h hadvance hrun (n + 1)

theorem yields_opened (h : d.sessions.get? t.id = some s)
    (hwork : t.settings.Work) (n : Nat) :
    Yields w t (scanOf w d.tree t.folder) (n + 4) .opened d := by
  obtain ⟨a, ha⟩ := hwork.exists_auditor
  obtain ⟨news, hrun⟩ :=
    run_change_announce (w := w) h (fun s => { s with progress := some 10 })
      (.listed (filesOf d.tree t.folder)) "scanning" 10 ""
  have hopened :
    (advance w t (search w d.tree Point.opened.files) .opened).run.run d
      = (.ok (.listed (filesOf d.tree t.folder), news),
        { d with
          sessions :=
            d.sessions.put t.id { s with progress := some 10 } }) := by
    apply run_guarded_ok
    rw [run_bind, ha, run_ofOutcome]
    dsimp only
    rw [run_get_bind]
    exact hrun
  have hlisted (found : Outcome (List Finding)) (d₁ : Desk) :
      (advance w t found (.listed (filesOf d.tree t.folder))).run.run d₁
        = (.ok (.searching (filesOf d.tree t.folder), none), d₁) := rfl
  apply yields_succ hopened
  intro live
  apply yields_succ (hlisted _ _)
  intro live'
  exact yields_searching (Sessions.get?_put_self _ _ _)
    (filesOf d.tree t.folder) n

/-- A run whose session is there and whose settings work ends with what the
security scan gives for the files of its folder, whatever the settings are. -/
theorem run_stores (h : d.sessions.get? t.id = some s)
    (hwork : t.settings.Work) :
    ∃ d' s', (run w t).run.run d = (.ok (), d') ∧
      d'.sessions.get? t.id = some s' ∧
      EndsWith (scanOf w d.tree t.folder) s' := by
  obtain ⟨news, hrun⟩ :=
    run_change_announce (w := w) h (fun s => { s with status := "scanning" })
      .opened "scanning" 0 ""
  have hqueued : Yields w t (scanOf w d.tree t.folder) 6 .queued d := by
    apply yields_succ (p := .queued) (run_guarded_ok hrun)
    intro live
    exact yields_opened (Sessions.get?_put_self _ _ _) hwork 1
  exact hqueued

end Run

-- =========================================================== obedience

/-- How many findings of a result are in a file. -/
def countIn (r : ScanResult) (path : String) : Nat :=
  r.findings.countP fun f => f.file.asText? == some path

/-- A result that keeps to settings: each finding is in a file that they have
scanned, and there are no more of them in that file than they allow. -/
def KeepsTo (r : ScanResult) (c : AuditSettings) : Prop :=
  ∀ f ∈ r.findings, ∃ path, f.file = .text path ∧ c.scansFile path = .ok true ∧
    Auditor.isOver (countIn r path) c.maxPerFile = .ok false

/-- Entries of settings, written as a text, are read from it. -/
theorem settingsOf_indented {entries : List (String × Value)}
    (h : (Value.record entries).IsJson (some Text.digitLimit)) :
    settingsOf (some (Value.Json.indented (.record entries)))
      = AuditSettings.ofEntries entries := by
  have hread := Value.ofJson_indented h
  have hfull : (Value.Json.indented (.record entries)).isEmpty = false := by
    by_contra hempty
    have hnone : Value.Json.indented (.record entries) = "" := by
      simpa using hempty
    rw [hnone] at hread
    cases hread
  unfold settingsOf
  rw [Option.filter_some, hfull]
  show AuditSettings.ofJson _ = _
  rw [AuditSettings.ofJson, hread]
  rfl

/-- Small numbers keep to the limit of digits. -/
theorem isJson_small (n : Fin 10) :
    (Value.int n).IsJson (some Text.digitLimit) := by
  refine .int _ fun most hmost => ?_
  obtain rfl := Option.mem_some_iff.1 hmost
  revert n
  decide

/-- Settings that allow no findings. -/
def strict : AuditSettings :=
  { usual with maxPerFile := .int 0 }

theorem settingsOf_strict :
    settingsOf
      (some (Value.Json.indented (.record [("max_issues_per_file", .int 0)])))
      = .ok strict := by
  rw [settingsOf_indented (.record (by decide) (by simpa using isJson_small 0))]
  rfl

theorem work_strict : strict.Work := rfl

/-- Only a result without findings keeps to all settings there could be. -/
theorem keepsTo_all_iff (r : ScanResult) :
    (∀ config c, settingsOf config = .ok c → c.Work → KeepsTo r c) ↔
      r.findings = [] := by
  constructor
  · intro hall
    by_contra hsome
    obtain ⟨f, hf⟩ := List.exists_mem_of_ne_nil _ hsome
    obtain ⟨path, hfile, -, hlimit⟩ :=
      hall _ _ settingsOf_strict work_strict f hf
    have hcount : 0 < countIn r path := by
      apply List.countP_pos_iff.2
      refine ⟨f, hf, ?_⟩
      rw [hfile]
      simp [Value.asText?]
    have hover : Auditor.isOver (countIn r path) (.int 0) = .ok true := by
      show Except.ok (decide ((0 : Int) < countIn r path)) = _
      rw [decide_eq_true (by omega)]
    rw [show strict.maxPerFile = .int 0 from rfl, hover] at hlimit
    cases hlimit
  · intro hnone config c _ _ f hf
    rw [hnone] at hf
    cases hf

/-- The settings that come with an upload do not govern its scan. As long as an
auditor can be made from them, the service is at all times as if they had not
come. The upload is answered and stored alike, and whenever its scan is run, its
session ends with what the security scan gives for the files of its folder. So
what such uploads of the same files store keeps to the settings of each of them
just if nothing is found. -/
theorem settings_do_not_govern_scan (w : World)
    (files : List (String × List UInt8)) :
    (∀ config c, settingsOf config = .ok c → c.Work → ∀ tree before later,
      (Service.after tree (before ++ .upload w files config :: later)).desk
        = (Service.after tree (before ++ .upload w files none :: later)).desk) ∧
    ∀ d v d₁, d.tasks = [] → (upload w files none).run.run d = (.ok v, d₁) →
      ∃ t, d₁.tasks = [t] ∧ (d₁.sessions.get? t.id).isSome = true ∧
        (∀ config c, settingsOf config = .ok c → c.Work →
          (upload w files config).run.run d
              = (.ok v, { d₁ with tasks := [{ t with settings := c }] }) ∧
            ∀ w' (now : Desk), (now.sessions.get? t.id).isSome = true →
              ∃ d₂ s,
              (run w' { t with settings := c }).run.run now = (.ok (), d₂) ∧
              d₂.sessions.get? t.id = some s ∧
              EndsWith (scanOf w' now.tree t.folder) s) ∧
        ∀ w' (now : Desk) r, scanOf w' now.tree t.folder = .ok r →
          ((∀ config c, settingsOf config = .ok c → c.Work → KeepsTo r c)
            ↔ r.findings = []) := by
  constructor
  · intro config c hconfig hwork tree before later
    have hsame :
        (Service.after tree
            (before ++ .upload w files config :: later)).unconfigured
          = (Service.after tree
            (before ++ .upload w files none :: later)).unconfigured := by
      rw [Service.unconfigured_after, Service.unconfigured_after]
      simp only [List.map_append, List.map_cons, Event.unconfigured,
        unconfiguredText_of_work hconfig hwork,
        unconfiguredText_of_work settingsOf_none AuditSettings.work_usual]
    have hdesk := congrArg Service.desk hsame
    exact hdesk
  · intro d v d₁ hidle hok
    obtain ⟨htasks, ⟨s₀, hs₀⟩, hrun⟩ := run_upload_accepted hidle hok
    refine ⟨waiting d usual, htasks, Option.isSome_iff_exists.2 ⟨s₀, hs₀⟩,
      fun config c hconfig hwork => ⟨hrun config c hconfig, ?_⟩,
      fun w' now r _ => keepsTo_all_iff r⟩
    intro w' now hthere
    obtain ⟨s, hs⟩ := Option.isSome_iff_exists.1 hthere
    exact run_stores (t := waiting d c) hs hwork

/-- A script in which the security scan finds something twice. -/
def markedScript : List (String × List UInt8) :=
  [("a.js", "eval(1)\n".toUTF8.toList)]

/-- A world without a store in which nothing fails. -/
def calm : World := UploadRequest.storeless

theorem run_upload_marked :
    ∃ v d₁, (upload calm markedScript none).run.run (.ofReplies [])
      = (.ok v, d₁) :=
  exists_of_isOk (by decide +kernel)

/-- With settings that allow no findings the script is uploaded and scanned as
without. -/
theorem settings_do_not_govern_scan_strict :
    let text := Value.Json.indented (.record [("max_issues_per_file", .int 0)])
    (∀ later,
      (Service.after .empty
          (.upload calm markedScript (some text) :: later)).desk
        = (Service.after .empty
          (.upload calm markedScript none :: later)).desk) ∧
    ∃ v d₁ t d₂ s,
      (upload calm markedScript none).run.run (.ofReplies []) = (.ok v, d₁) ∧
      d₁.tasks = [t] ∧
        (run calm { t with settings := strict }).run.run d₁ = (.ok (), d₂) ∧
      d₂.sessions.get? t.id = some s ∧
        EndsWith (scanOf calm d₁.tree t.folder) s := by
  obtain ⟨hhistory, hupload⟩ := settings_do_not_govern_scan calm markedScript
  obtain ⟨v, d₁, hok⟩ := run_upload_marked
  obtain ⟨t, htasks, hthere, hrun, -⟩ := hupload _ v d₁ rfl hok
  obtain ⟨-, hends⟩ := hrun _ strict settingsOf_strict work_strict
  obtain ⟨d₂, s, hdone, hs, hend⟩ := hends calm d₁ hthere
  exact ⟨fun later =>
    hhistory _ strict settingsOf_strict work_strict .empty [] later, v, d₁, t,
    d₂, s, hok, htasks, hdone, hs, hend⟩

/-- Settings without scripts, that allow one finding in a file. -/
def scriptless : AuditSettings :=
  { usual with excludePatterns := .list [.text "*.js"], maxPerFile := .int 1 }

/-- The files in which a scan of the script finds something, once it is
uploaded. -/
def markedFiles : List (Option String) :=
  match scanOf calm
    ((upload calm markedScript none).run.run (.ofReplies [])).2.tree
      (folderOf (uploadedId (.ofReplies []))) with
  | .ok r => r.findings.map fun f => f.file.asText?
  | .error _ => []

theorem markedFiles_eq : markedFiles
    = [some "vibeaudit_scan-1_/a.js", some "vibeaudit_scan-1_/a.js"] := by
  decide +kernel

theorem settingsOf_scriptless :
    settingsOf (some (Value.Json.indented (.record
      [("exclude_patterns", .list [.text "*.js"]),
        ("max_issues_per_file", .int 1)])))
        = .ok scriptless := by
  rw [settingsOf_indented (.record (by decide)
    (by simpa [Value.isJson_list_iff, Value.IsJson.text] using isJson_small 1))]
  rfl

theorem scansFile_scriptless : scriptless.scansFile "vibeaudit_scan-1_/a.js"
    = .ok false := rfl

/-- The settings exclude scripts and allow one finding in a file; the scan of
the upload they came with enters two, both in a script. -/
theorem excluded_file_reported :
    ∃ config, settingsOf config = .ok scriptless ∧ scriptless.Work ∧
      ∃ v d₁ t d₂ s r,
        (upload calm markedScript config).run.run (.ofReplies [])
          = (.ok v, d₁) ∧
        d₁.tasks = [t] ∧ t.settings = scriptless ∧
        (run calm t).run.run d₁ = (.ok (), d₂) ∧
        d₂.sessions.get? t.id = some s ∧ s.result = some r ∧
        countIn r "vibeaudit_scan-1_/a.js" = 2 ∧
        (∃ f ∈ r.findings, f.file.asText? = some "vibeaudit_scan-1_/a.js") ∧
        scriptless.scansFile "vibeaudit_scan-1_/a.js" = .ok false ∧
        Auditor.isOver (countIn r "vibeaudit_scan-1_/a.js")
          scriptless.maxPerFile = .ok true := by
  obtain ⟨v, d₁, hok⟩ := run_upload_marked
  obtain ⟨-, ⟨s₀, hs₀⟩, hrun⟩ := run_upload_accepted rfl hok
  obtain ⟨d₂, s, hdone, hs, hends⟩ := run_stores (w := calm)
    (t := waiting (.ofReplies []) scriptless)
    (d := { d₁ with tasks := [waiting (.ofReplies []) scriptless] }) hs₀
    (show scriptless.Work from rfl)
  have hfiles := markedFiles_eq
  unfold markedFiles at hfiles
  rw [hok] at hfiles
  change EndsWith (scanOf calm d₁.tree (folderOf (uploadedId (.ofReplies []))))
    s at hends
  cases hscan : scanOf calm d₁.tree (folderOf (uploadedId (.ofReplies []))) with
  | error f =>
      rw [hscan] at hfiles
      cases hfiles
  | ok r =>
      rw [hscan] at hfiles hends
      replace hfiles : (r.findings.map fun f => f.file.asText?)
          = [some "vibeaudit_scan-1_/a.js", some "vibeaudit_scan-1_/a.js"] :=
            hfiles
      have hcount : countIn r "vibeaudit_scan-1_/a.js" = 2 := by
        have hmapped :=
          congrArg (List.countP (· == some "vibeaudit_scan-1_/a.js")) hfiles
        rw [List.countP_map] at hmapped
        exact hmapped
      have hmem : some "vibeaudit_scan-1_/a.js" ∈ r.findings.map fun f =>
          f.file.asText? := by
        rw [hfiles]
        exact List.mem_cons_self
      refine ⟨_, settingsOf_scriptless, rfl, v, _, _, d₂, s, r,
        hrun _ scriptless settingsOf_scriptless, rfl, rfl, hdone, hs,
        hends.2, hcount, List.mem_map.1 hmem, scansFile_scriptless, ?_⟩
      rw [hcount]
      rfl

end MemoryService

end SourceAudit
