/-
The sessions at the desk: what each piece of work of the service does to them.

Sessions are seen through `Sessions.get?`. Most of the work does not touch them,
nor the scans that wait, nor the count of ids (`Handler.Keeps`), and that is
closed under doing one thing after another; what is left are the few pieces that
do: entering, changing and taking away one session, each of which leaves all
others as they are.
-/
import SourceAudit.Proofs.Store.Calls
import SourceAudit.Service.Memory

namespace SourceAudit

-- ============================================================== lookup

namespace Sessions

/-- Entering a session changes the session with that id and no other. -/
theorem get?_put (all : Sessions) (id key : String) (s : Session) :
    (all.put id s).get? key = if key = id then some s else all.get? key := by
  unfold put get?
  by_cases hany : (all.any fun e => e.1 == id) = true
  · rw [if_pos hany, List.find?_map]
    have hkey :
      ((fun e : String × Session => e.1 == key) ∘ fun e : String × Session =>
        if e.1 == id then (id, s) else e) = fun e => e.1 == key := by
      funext e
      rw [Function.comp_apply]
      by_cases he : e.1 = id
      · rw [if_pos (beq_iff_eq.2 he), he]
      · rw [if_neg (mt beq_iff_eq.1 he)]
    rw [hkey]
    cases hfind : all.find? fun e => e.1 == key with
    | none =>
        rw [if_neg]
        · rfl
        · intro hk
          obtain ⟨e, he, hid⟩ := List.any_eq_true.1 hany
          exact List.find?_eq_none.1 hfind e he (hk ▸ hid)
    | some e =>
        have he := List.find?_some hfind
        rw [beq_iff_eq] at he
        subst he
        by_cases hid : e.1 = id
        · rw [if_pos hid, Option.map_some, if_pos (beq_iff_eq.2 hid)]
          rfl
        · rw [if_neg hid, Option.map_some, if_neg (mt beq_iff_eq.1 hid)]
  · rw [if_neg hany, List.find?_append]
    by_cases hk : key = id
    · subst hk
      have hnone : (all.find? fun e => e.1 == key) = none := by
        rw [List.find?_eq_none]
        exact fun e he hid => hany (List.any_eq_true.2 ⟨e, he, hid⟩)
      rw [hnone, if_pos rfl, Option.none_or, List.find?_singleton,
        if_pos (beq_self_eq_true key)]
      rfl
    · rw [if_neg hk, List.find?_singleton,
        if_neg (mt beq_iff_eq.1 (Ne.symm hk)), Option.or_none]

/-- Taking a session away takes away the session with that id and no other. -/
theorem get?_erase (all : Sessions) (id key : String) :
    (all.erase id).get? key = if key = id then none else all.get? key := by
  unfold erase get?
  rw [List.find?_filter]
  by_cases hk : key = id
  · subst hk
    have hnone :
        (all.find? fun e => decide ((e.1 != key) = true ∧ (e.1 == key) = true))
          = none := by
      rw [List.find?_eq_none]
      intro e _ he
      obtain ⟨hne, heq⟩ := of_decide_eq_true he
      exact bne_iff_ne.1 hne (beq_iff_eq.1 heq)
    rw [hnone, if_pos rfl]
    rfl
  · have hsame : (fun e : String × Session =>
      decide ((e.1 != id) = true ∧ (e.1 == key) = true))
        = fun e => e.1 == key := by
      funext e
      by_cases he : e.1 = key
      · rw [beq_iff_eq.2 he, decide_eq_true_eq]
        exact ⟨bne_iff_ne.2 (he ▸ hk), rfl⟩
      · rw [beq_eq_false_iff_ne.2 he, decide_eq_false_iff_not]
        exact fun h => Bool.false_ne_true h.2
    rw [hsame, if_neg hk]

end Sessions

-- ================================================================ work

namespace Handler

/-- Work that leaves the sessions, the waiting scans and the count of ids
alone. -/
def Keeps {α : Type} (h : Handler α) : Prop :=
  ∀ d : Desk, (h.run.run d).2.sessions = d.sessions ∧
    (h.run.run d).2.tasks = d.tasks
    ∧ (h.run.run d).2.given = d.given

/-- Looking at the desk. -/
theorem run_get (d : Desk) : (get : Handler Desk).run.run d = (.ok d, d) := rfl

theorem run_ofOutcome {α : Type} (r : Outcome α) (d : Desk) :
    (ofOutcome r).run.run d = (r, d) := by
  cases r <;> rfl

theorem keeps_pure {α : Type} (a : α) : Keeps (pure a : Handler α) :=
  fun _ => ⟨rfl, rfl, rfl⟩

theorem keeps_throw {α : Type} (f : Fault) : Keeps (throw f : Handler α) :=
  fun _ => ⟨rfl, rfl, rfl⟩

theorem keeps_get : Keeps (get : Handler Desk) :=
  fun _ => ⟨rfl, rfl, rfl⟩

theorem keeps_ofOutcome {α : Type} (r : Outcome α) : Keeps (ofOutcome r) := by
  cases r with
  | ok a => exact keeps_pure a
  | error f => exact keeps_throw f

theorem Keeps.bind {α β : Type} {h : Handler α} {k : α → Handler β}
    (hh : Keeps h) (hk : ∀ a, Keeps (k a)) : Keeps (h >>= k) := by
  intro d
  rw [run_bind]
  obtain ⟨hs, ht, hg⟩ := hh d
  cases hrun : h.run.run d with
  | mk r d' =>
      rw [hrun] at hs ht hg
      cases r with
      | error f => exact ⟨hs, ht, hg⟩
      | ok a =>
          obtain ⟨hs', ht', hg'⟩ := hk a d'
          exact ⟨hs'.trans hs, ht'.trans ht, hg'.trans hg⟩

theorem keeps_forM {α : Type} {k : α → Handler Unit} (hk : ∀ a, Keeps (k a))
    (as : List α) : Keeps (as.forM k) := by
  induction as with
  | nil => exact keeps_pure ()
  | cons a rest ih => exact (hk a).bind fun _ => ih

/-- Work on the files alone. -/
theorem keeps_setTree (tree : FileTree) :
    Keeps (modify fun d => { d with tree := tree } : Handler Unit) :=
  fun _ => ⟨rfl, rfl, rfl⟩

theorem keeps_makeFolder (path : String) : Keeps (makeFolder path) :=
  keeps_get.bind fun _ => (keeps_setTree _).bind fun _ => keeps_ofOutcome _

theorem keeps_write (path : String) (bytes : List UInt8) :
    Keeps (write path bytes) :=
  keeps_get.bind fun _ => (keeps_ofOutcome _).bind fun _ => keeps_setTree _

theorem keeps_saveFile (folder : String) (file : String × List UInt8) :
    Keeps (saveFile folder file) :=
  (keeps_makeFolder _).bind fun _ => keeps_write _ _

theorem keeps_begun (id : String) : Keeps (begun id) :=
  keeps_ofOutcome _

theorem keeps_asked (id : String) : Keeps (asked id) :=
  keeps_get.bind fun d => by
    cases d.sessions.get? id with
    | some s => exact keeps_pure s
    | none => exact keeps_throw _

/-- Changing a session: it has to be there. -/
theorem run_change (id : String) (f : Session → Session) (d : Desk) :
    (change id f).run.run d
      = match d.sessions.get? id with
        | some s => (.ok (), { d with sessions := d.sessions.put id (f s) })
        | none => (.error (.unknownKey id), d) := by
  unfold change session
  rw [run_bind, run_bind, run_get]
  dsimp only
  cases d.sessions.get? id <;> rfl

/-- The session someone asks for. -/
theorem run_asked (id : String) (d : Desk) :
    (asked id).run.run d
      = match d.sessions.get? id with
        | some s => (.ok s, d)
        | none => (.error (.refused 404 "Scan not found"), d) := by
  unfold asked
  rw [run_bind, run_get]
  dsimp only
  cases d.sessions.get? id <;> rfl

/-- What a scan someone asks for gave: it has to have ended, with a result. -/
theorem run_askedResult (id : String) (d : Desk) :
    (askedResult id).run.run d
      = match d.sessions.get? id with
        | some s =>
          (if s.status != "completed" then
           .error (.refused 400 "Scan not completed yet")
             else match s.result with
            | some r => .ok r
            | none => .error (.refused 500 "Results not available"), d)
        | none => (.error (.refused 404 "Scan not found"), d) := by
  unfold askedResult
  rw [run_bind, run_asked]
  cases d.sessions.get? id with
  | none => rfl
  | some s =>
      dsimp only
      by_cases h : (s.status != "completed") = true
      · rw [if_pos h, if_pos h]
        rfl
      · rw [if_neg h, if_neg h]
        cases s.result <;> rfl

theorem keeps_askedResult (id : String) : Keeps (askedResult id) :=
  (keeps_asked id).bind fun s => by
    by_cases h : (s.status != "completed") = true
    · rw [if_pos h]
      exact (keeps_throw _).bind fun _ => by
        cases s.result with
        | some r => exact keeps_pure r
        | none => exact keeps_throw _
    · rw [if_neg h]
      cases s.result with
      | some r => exact keeps_pure r
      | none => exact keeps_throw _

theorem ofOutcome_bind {α β : Type} (r : Outcome α) (k : α → Outcome β) :
    ofOutcome (r >>= k) = ofOutcome r >>= fun a => ofOutcome (k a) := by
  cases r <;> rfl

def resultEntries (id : String) (summary : Value) (issues : List Value)
    (errors frameworks : List (String × Value)) (compliance : Value) :
    List (String × Value) :=
  [("scan_id", .text id), ("summary", summary), ("issues", .list issues),
   ("errors", .record errors), ("detected_frameworks", .record frameworks),
   ("compliance_summary", compliance)]

/-- The message with the results of a scan: it takes totals, and findings that
can become messages. -/
def resultsOutcome (w : World) (id : String) (r : ScanResult)
    (errors frameworks : List (String × Value)) : Outcome Value :=
  match w.totals with
  | none => .error (.noMember "AuditResults" "get_summary")
  | some summary => r.findings.mapM (Schema.ofFinding w.full) >>= fun issues =>
      Schema.make Schema.scanResults
        (resultEntries id summary issues errors frameworks r.compliance)

theorem resultsMessage_eq (w : World) (id : String) (r : ScanResult)
    (errors frameworks : List (String × Value)) :
    resultsMessage w id r errors frameworks
      = ofOutcome (resultsOutcome w id r errors frameworks) := by
  unfold resultsMessage totals resultsOutcome
  cases w.totals with
  | none => rfl
  | some summary =>
      rw [ofOutcome_bind]
      rfl

theorem keeps_resultsMessage (w : World) (id : String) (r : ScanResult)
    (errors frameworks : List (String × Value)) :
    Keeps (resultsMessage w id r errors frameworks) := by
  rw [resultsMessage_eq]
  exact keeps_ofOutcome _

end Handler

-- ============================================================= service

namespace MemoryService

open Handler

/-- Asking how far a scan is changes nothing. -/
theorem keeps_status (id : String) : Keeps (status id) :=
  (keeps_asked id).bind fun _ => keeps_ofOutcome _

/-- Asking for results changes nothing. -/
theorem keeps_results (w : World) (id : String) : Keeps (results w id) :=
  (keeps_askedResult id).bind fun _ => (keeps_ofOutcome _).bind fun _ =>
    keeps_resultsMessage _ _ _ _ _

/-- Cleaning a scan up takes its session away, if there is one, and no other. -/
theorem cleanup_erases (id : String) (d : Desk) :
    ((cleanup id).run.run d).2.sessions
        = (if (d.sessions.get? id).isSome then d.sessions.erase id
          else d.sessions)
      ∧ ((cleanup id).run.run d).2.tasks = d.tasks
      ∧ ((cleanup id).run.run d).2.given = d.given := by
  unfold cleanup
  rw [run_bind, run_asked]
  cases d.sessions.get? id with
  | none => exact ⟨rfl, rfl, rfl⟩
  | some s =>
      dsimp only
      unfold dismiss
      rw [run_bind]
      cases s.folder <;> exact ⟨rfl, rfl, rfl⟩

/-- What becomes of the desk when a scan is asked for under an id: nothing, or
its session has been started and its scan waits. -/
def Started (w : World) (id : String) (d d' : Desk) : Prop :=
  (d'.sessions = d.sessions ∧ d'.tasks = d.tasks) ∨
    (d'.sessions = d.sessions.put id (.started w.now (folderOf id) none) ∧
      ∃ settings, d'.tasks = d.tasks ++ [⟨id, folderOf id, settings, none⟩])

/-- The part of an upload that may fail half-way. -/
theorem saving_starts (w : World) (files : List (String × List UInt8))
    (config : Option String) (id : String) (d : Desk) :
    let d' := ((do
      files.forM (saveFile (folderOf id))
      let settings ← ofOutcome (settingsOf config)
      enter id (.started w.now (folderOf id) none)
      modify fun d =>
        { d with tasks := d.tasks ++ [⟨id, folderOf id, settings, none⟩] }
      begun id : Handler Value).run.run d).2
    d'.given = d.given ∧ Started w id d d' := by
  obtain ⟨hs, ht, hg⟩ := keeps_forM (keeps_saveFile (folderOf id)) files d
  dsimp only
  rw [run_bind]
  cases hsaved : (files.forM (saveFile (folderOf id))).run.run d with
  | mk saved d₁ =>
      rw [hsaved] at hs ht hg
      cases saved with
      | error f => exact ⟨hg, .inl ⟨hs, ht⟩⟩
      | ok _ =>
          dsimp only
          cases settingsOf config with
          | error f => exact ⟨hg, .inl ⟨hs, ht⟩⟩
          | ok settings =>
              obtain ⟨hs₂, ht₂, hg₂⟩ := keeps_begun id
                { d₁ with
                  sessions :=
                    d₁.sessions.put id (.started w.now (folderOf id) none)
                  tasks := d₁.tasks ++ [⟨id, folderOf id, settings, none⟩] }
              have hput :=
                congrArg (fun all =>
                  all.put id (.started w.now (folderOf id) none)) hs
              have hadd :=
                congrArg (· ++ [⟨id, folderOf id, settings, none⟩]) ht
              exact ⟨hg₂.trans hg,
                .inr ⟨hs₂.trans hput, settings, ht₂.trans hadd⟩⟩

/-- The id of the scan an upload makes. -/
def uploadedId (d : Desk) : String := "scan-" ++ toString (d.given + 1)

/-- An upload uses up an id. Either that is all, or a session has been started
under the id and its scan waits. -/
theorem upload_starts (w : World) (files : List (String × List UInt8))
    (config : Option String) (d : Desk) :
    ((upload w files config).run.run d).2.given = d.given + 1
      ∧ Started w (uploadedId d) d ((upload w files config).run.run d).2 := by
  obtain ⟨d₀, hd₀⟩ : ∃ d₀ : Desk, d₀
      = { d with given := d.given + 1 } := ⟨_, rfl⟩
  have hnew : newId.run.run d = (.ok (uploadedId d), d₀) := by
    rw [hd₀]
    rfl
  have hsame : d₀.sessions = d.sessions ∧ d₀.tasks = d.tasks ∧
      d₀.given = d.given + 1 := by
    rw [hd₀]
    exact ⟨rfl, rfl, rfl⟩
  obtain ⟨hs₀, ht₀, hg₀⟩ := hsame
  obtain ⟨hs₁, ht₁, hg₁⟩ := keeps_makeFolder (folderOf (uploadedId d)) d₀
  unfold upload
  rw [run_bind, hnew]
  dsimp only
  rw [run_bind]
  cases hmade : (makeFolder (folderOf (uploadedId d))).run.run d₀ with
  | mk made d₁ =>
      rw [hmade] at hs₁ ht₁ hg₁
      cases made with
      | error f => exact ⟨hg₁.trans hg₀, .inl ⟨hs₁.trans hs₀, ht₁.trans ht₀⟩⟩
      | ok _ =>
          dsimp only
          obtain ⟨hg₂, hstarted⟩ :=
            saving_starts w files config (uploadedId d) d₁
          rw [run_tryCatch]
          generalize ExceptT.run _ = work at hg₂ hstarted ⊢
          unfold Started at hstarted ⊢
          rw [hs₁.trans hs₀, ht₁.trans ht₀] at hstarted
          rw [hg₁.trans hg₀] at hg₂
          cases hwork : work.run d₁ with
          | mk r d₂ =>
              rw [hwork] at hg₂ hstarted
              cases r with
              | ok v => exact ⟨hg₂, hstarted⟩
              | error f => exact ⟨hg₂, hstarted⟩

end MemoryService

end SourceAudit
