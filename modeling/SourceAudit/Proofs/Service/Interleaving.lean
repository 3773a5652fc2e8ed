/-
The scan service with everything going on at once: uploads, runs of scans,
questions and cleanups, in any order.

A run waits whenever it sends a message or asks the security scan for something,
and anything else may happen meanwhile (`Service.step`). The runs share the
sessions, but each changes only that of its own scan, and no two runs are of the
same scan. So what holds of a session depends on the one run it belongs to
(`Service.Sound`): it is as it should be at the point of that run, unless it has
been cleaned up.
-/
import SourceAudit.Proofs.Schema.Fitting
import SourceAudit.Proofs.Service.Stretches
import Mathlib.Data.List.Nodup

namespace SourceAudit.MemoryService

open Handler

-- ========================================================== vocabulary

/-- The run of a scan: how far it is, and the message it is sending, if it
is. -/
structure Run where
  task : ScanTask
  point : Point
  news : Option Broadcast

/-- The service: its desk, and the runs of all scans that were accepted. -/
structure Service where
  desk : Desk
  runs : List Run

/-- What happens next at the service. A run that goes on learns whether the
message it was sending arrived, and what the security scan gave. -/
inductive Event where
  | upload (w : World) (files : List (String × List UInt8))
      (config : Option String)
  | resume (place : Nat) (w : World) (arrived : Bool)
      (found : Outcome (List Finding))
  | status (id : String)
  | results (w : World) (id : String)
  | cleanup (id : String)
  | connect (client scan : String)
  | disconnect (client scan : String)

/-- A run goes on: with the next client of its message, or with its next
stretch. A run that fails is over. -/
def Run.resume (r : Run) (w : World) (arrived : Bool)
    (found : Outcome (List Finding)) (d : Desk) : Run × Desk :=
  match r.news with
  | some b =>
    let (live, b) := d.live.proceed b arrived
    ({ r with news := if b.current.isSome then some b else none },
      { d with live := live })
  | none =>
    match (advance w r.task found r.point).run.run d with
    | (.ok (next, news), d) => (⟨r.task, next, news⟩, d)
    | (.error _, d) => (⟨r.task, .ended, none⟩, d)

namespace Service

/-- Work at the desk. The scans it leaves waiting become runs. -/
def work {α : Type} (s : Service) (h : Handler α) : Service :=
  let d := (h.run.run s.desk).2
  ⟨{ d with tasks := [] }, s.runs ++ d.tasks.map fun t => ⟨t, .queued, none⟩⟩

/-- One event at the service. -/
def step (s : Service) : Event → Service
  | .upload w files config => s.work (upload w files config)
  | .resume place w arrived found =>
    match s.runs[place]? with
    | some r =>
      let (r, d) := r.resume w arrived found s.desk
      ⟨d, s.runs.set place r⟩
    | none => s
  | .status id => s.work (MemoryService.status id)
  | .results w id => s.work (MemoryService.results w id)
  | .cleanup id => s.work (MemoryService.cleanup id)
  | .connect client scan =>
      { s with desk.live := s.desk.live.connect client scan }
  | .disconnect client scan =>
      { s with desk.live := s.desk.live.disconnect client scan }

/-- Events at the service, one after another. -/
def steps (s : Service) (events : List Event) : Service :=
  events.foldl step s

/-- The service before anything happened, with files that were there before. -/
def opening (tree : FileTree) : Service :=
  ⟨{ Desk.ofReplies [] with tree := tree }, []⟩

/-- The service after events. -/
def after (tree : FileTree) (events : List Event) : Service :=
  (opening tree).steps events

/-- The session of a scan. -/
def session? (s : Service) (id : String) : Option Session :=
  s.desk.sessions.get? id

/-- The ids of the scans that were accepted. -/
def ids (s : Service) : List String :=
  s.runs.map (·.task.id)

-- =========================================================== soundness

/-- What holds of the service at all times: no scan waits at the desk; runs are
of different scans, whose ids were given out; every session belongs to a run,
and is as it should be at the point of that run. -/
structure Sound (s : Service) : Prop where
  idle : s.desk.tasks = []
  numbered : ∀ id ∈ s.ids, ∃ k, k ≤ s.desk.given ∧ id = "scan-" ++ toString k
  distinct : s.ids.Nodup
  owned : ∀ id x, s.session? id = some x → id ∈ s.ids
  placed : ∀ (i : Nat) (r : Run), s.runs[i]? = some r →
    ∀ x, s.session? r.task.id = some x → AtPoint x r.point

/-- Before anything happened there is nothing. -/
theorem sound_opening (tree : FileTree) : (opening tree).Sound where
  idle := rfl
  numbered := fun _ h => absurd h List.not_mem_nil
  distinct := List.nodup_nil
  owned := fun _ _ h => nomatch h
  placed := fun _ _ h => nomatch h

/-- The id of the next upload is that of no scan. -/
theorem Sound.uploadedId_fresh {s : Service} (h : s.Sound) :
    uploadedId s.desk ∉ s.ids := by
  intro hin
  obtain ⟨k, hk, hid⟩ := h.numbered _ hin
  have htext := congrArg String.toList
    ((String.append_right_inj "scan-").1 hid)
  have hread (n : Nat) :
      Nat.ofDigitChars 10 (toString n).toList 0 = n := by
    rw [Nat.toString_eq_repr, Nat.toList_repr]
    exact Nat.ofDigitChars_toDigits (by decide) (by decide)
  have hnum := (hread _).symm.trans (htext ▸ hread k)
  omega

/-- Work that leaves no further scan waiting starts no run. -/
theorem work_runs {α : Type} {s : Service} (h : s.Sound) {k : Handler α}
    (hk : (k.run.run s.desk).2.tasks = s.desk.tasks) :
    (s.work k).runs = s.runs := by
  show s.runs ++ List.map _ (k.run.run s.desk).2.tasks = s.runs
  rw [hk, h.idle]
  exact List.append_nil _

-- ============================================================= effects

/-- What an event can do to the runs and the sessions of a service. -/
inductive Effect (s s' : Service) (e : Event) : Prop where
  /-- Nothing, except that an id may be used up. -/
  | quiet (runs : s'.runs = s.runs) (sessions : s'.desk.sessions
      = s.desk.sessions)
      (given : s.desk.given ≤ s'.desk.given)
  /-- A scan is accepted under a new id. -/
  | started (t : ScanTask) (x : Session) (id : t.id = uploadedId s.desk)
      (runs : s'.runs = s.runs ++ [⟨t, .queued, none⟩])
      (sessions : s'.desk.sessions = s.desk.sessions.put t.id x)
      (at_start : AtPoint x .queued)
      (given : s'.desk.given = s.desk.given + 1)
  /-- A session is cleaned up. -/
  | dismissed (id : String) (event : e = .cleanup id) (runs : s'.runs = s.runs)
      (sessions : s'.desk.sessions = s.desk.sessions.erase id)
      (given : s'.desk.given = s.desk.given)
  /-- A run moves without a change to its session. -/
  | moved (place : Nat) (r r' : Run) (run : s.runs[place]? = some r)
      (task : r'.task = r.task)
      (runs : s'.runs = s.runs.set place r')
      (sessions : s'.desk.sessions = s.desk.sessions)
      (there : ∀ x, s.session? r.task.id = some x → AtPoint x r'.point)
      (given : s'.desk.given = s.desk.given)
  /-- A run moves and changes its session, whose scan had not ended. -/
  | changed (place : Nat) (r r' : Run) (x x' : Session)
      (run : s.runs[place]? = some r)
      (task : r'.task = r.task) (runs : s'.runs = s.runs.set place r')
      (before : s.session? r.task.id = some x) (unfinished : ¬ x.IsFinal)
      (sessions : s'.desk.sessions = s.desk.sessions.put r.task.id x')
      (there : AtPoint x' r'.point) (given : s'.desk.given = s.desk.given)

/-- Work that keeps everything is quiet. -/
theorem effect_of_keeps {α : Type} {s : Service} (h : s.Sound) {k : Handler α}
    (hk : Keeps k) (e : Event) : Effect s (s.work k) e := by
  obtain ⟨hs, ht, hg⟩ := hk s.desk
  exact .quiet (work_runs h ht) hs (Nat.le_of_eq hg.symm)

/-- Work that uses up an id and may start a scan under it. -/
theorem effect_of_started {α : Type} {s : Service} (h : s.Sound) {w : World}
    {k : Handler α} (hg : (k.run.run s.desk).2.given = s.desk.given + 1)
    (hstarted : Started w (uploadedId s.desk) s.desk (k.run.run s.desk).2)
    (e : Event) : Effect s (s.work k) e := by
  rcases hstarted with ⟨hs, ht⟩ | ⟨hs, settings, ht⟩
  · refine .quiet (work_runs h ht) hs ?_
    show s.desk.given ≤ (k.run.run s.desk).2.given
    omega
  · refine .started ⟨uploadedId s.desk, folderOf (uploadedId s.desk),
      settings, none⟩
      (.started w.now (folderOf (uploadedId s.desk)) none) rfl ?_ hs ⟨rfl,
        rfl, rfl⟩ hg
    show s.runs ++ List.map _ (k.run.run s.desk).2.tasks = _
    rw [ht, h.idle]
    rfl

/-- What a cleanup does. -/
theorem effect_cleanup {s : Service} (h : s.Sound) (id : String) :
    Effect s (s.work (MemoryService.cleanup id)) (.cleanup id) := by
  obtain ⟨hs, ht, hg⟩ := cleanup_erases id s.desk
  have hruns := work_runs h ht
  by_cases hthere : (s.desk.sessions.get? id).isSome = true
  · rw [if_pos hthere] at hs
    exact .dismissed id rfl hruns hs hg
  · rw [if_neg hthere] at hs
    exact .quiet hruns hs (Nat.le_of_eq hg.symm)

/-- A run that is sending a message goes on with it; nothing else changes. -/
theorem resume_news {r : Run} {b : Broadcast} (h : r.news = some b) (w : World)
    (arrived : Bool) (found : Outcome (List Finding)) (d : Desk) :
    ∃ news live, r.resume w arrived found d
      = (⟨r.task, r.point, news⟩, { d with live := live }) := by
  unfold Run.resume
  rw [h]
  exact ⟨_, _, rfl⟩

/-- A run that is not sending anything goes on with its next stretch. -/
theorem resume_stretch {r : Run} (h : r.news = none) (w : World)
    (arrived : Bool) (found : Outcome (List Finding)) (d : Desk) :
    r.resume w arrived found d
      = match (advance w r.task found r.point).run.run d with
        | (.ok (next, news), d) => (⟨r.task, next, news⟩, d)
        | (.error _, d) => (⟨r.task, .ended, none⟩, d) := by
  unfold Run.resume
  rw [h]

/-- What a run that goes on does. -/
theorem effect_resume {s : Service} (h : s.Sound) {place : Nat} {r : Run}
    (hr : s.runs[place]? = some r) (w : World) (arrived : Bool)
    (found : Outcome (List Finding)) (e : Event) :
    Effect s ⟨(r.resume w arrived found s.desk).2,
        s.runs.set place (r.resume w arrived found s.desk).1⟩ e
      ∧ (r.resume w arrived found s.desk).2.tasks = [] := by
  have hplaced := h.placed place r hr
  cases hnews : r.news with
  | some b =>
      obtain ⟨news, live, hresume⟩ := resume_news hnews w arrived found s.desk
      rw [hresume]
      exact ⟨.moved place r ⟨r.task, r.point, news⟩ hr rfl rfl rfl hplaced rfl,
        h.idle⟩
  | none =>
      rw [resume_stretch hnews]
      cases hx : s.session? r.task.id with
      | none =>
          have hdesk := advance_absent (w := w) (t := r.task) hx found r.point
          have hgone : ∀ p x, s.session? r.task.id = some x → AtPoint x p := by
            intro p x hsome
            rw [hx] at hsome
            cases hsome
          cases hrun : (advance w r.task found r.point).run.run s.desk with
          | mk out d =>
              rw [hrun] at hdesk
              obtain rfl : d = s.desk := hdesk
              cases out with
              | ok next =>
                  exact ⟨.moved place r ⟨r.task, next.1,
                    next.2⟩ hr rfl rfl rfl (hgone _) rfl, h.idle⟩
              | error f =>
                  exact ⟨.moved place r ⟨r.task, .ended,
                    none⟩ hr rfl rfl rfl (hgone _) rfl, h.idle⟩
      | some x =>
          have hat := hplaced x hx
          by_cases hfinal : x.IsFinal
          · -- only the last points are left, and they change nothing
            have hover : (advance w r.task found r.point).run.run s.desk
                = (.ok (.ended, none), s.desk) := by
              rcases hat.last_of_final hfinal with hp | hp <;> rw [hp] <;> rfl
            have hlast : AtPoint x .ended := by
              rcases hat.last_of_final hfinal with hp | hp <;>
                rw [hp] at hat <;> exact hat
            rw [hover]
            refine ⟨.moved place r ⟨r.task, .ended,
              none⟩ hr rfl rfl rfl (fun y hy => ?_) rfl, h.idle⟩
            rw [hx] at hy
            exact Option.some.inj hy ▸ hlast
          · rcases advance_present (w := w) (t := r.task) hx hat found with
              ⟨next, news, x', hrun, hnext⟩ | ⟨next, hrun, hnext⟩
            · rw [hrun]
              exact ⟨.changed place r ⟨r.task, next,
                news⟩ x x' hr rfl rfl hx hfinal rfl hnext rfl, h.idle⟩
            · rw [hrun]
              refine ⟨.moved place r ⟨r.task, next,
                none⟩ hr rfl rfl rfl (fun y hy => ?_) rfl, h.idle⟩
              rw [hx] at hy
              exact Option.some.inj hy ▸ hnext

/-- What an event does to a sound service; no scan is left waiting at the
desk. -/
theorem Sound.effect {s : Service} (h : s.Sound) (e : Event) :
    Effect s (s.step e) e ∧ (s.step e).desk.tasks = [] := by
  cases e with
  | upload w files config =>
      obtain ⟨hg, hstarted⟩ := upload_starts w files config s.desk
      exact ⟨effect_of_started h hg hstarted _, rfl⟩
  | resume place w arrived found =>
      show Effect s (match s.runs[place]? with | some r => _ | none => s) _
        ∧ (match s.runs[place]? with | some r => _ | none => s).desk.tasks = []
      cases hr : s.runs[place]? with
      | none => exact ⟨.quiet rfl rfl (Nat.le_refl _), h.idle⟩
      | some r => exact effect_resume h hr w arrived found _
  | status id => exact ⟨effect_of_keeps h (keeps_status id) _, rfl⟩
  | results w id => exact ⟨effect_of_keeps h (keeps_results w id) _, rfl⟩
  | cleanup id => exact ⟨effect_cleanup h id, rfl⟩
  | connect client scan => exact ⟨.quiet rfl rfl (Nat.le_refl _), h.idle⟩
  | disconnect client scan => exact ⟨.quiet rfl rfl (Nat.le_refl _), h.idle⟩

/-- Two places with runs of the same scan are the same place. -/
theorem Sound.place_eq {s : Service} (h : s.Sound) {i j : Nat} {r r' : Run}
    (hi : s.runs[i]? = some r) (hj : s.runs[j]? = some r')
    (hid : r.task.id = r'.task.id) : i = j := by
  obtain ⟨hlt, -⟩ := List.getElem?_eq_some_iff.1 hi
  have hdistinct : (s.runs.map (·.task.id)).Nodup := h.distinct
  refine (List.getElem?_inj (by rw [List.length_map]; exact hlt) hdistinct).1 ?_
  rw [List.getElem?_map, List.getElem?_map, hi, hj, Option.map_some,
    Option.map_some, hid]

/-- Moving a run on keeps the ids. -/
theorem ids_set {runs : List Run} {place : Nat} {r r' : Run}
    (hr : runs[place]? = some r) (htask : r'.task = r.task) :
    (runs.set place r').map (·.task.id) = runs.map (·.task.id) := by
  obtain ⟨hlt, -⟩ := List.getElem?_eq_some_iff.1 hr
  refine List.ext_getElem? fun i => ?_
  rw [List.getElem?_map, List.getElem?_map, List.getElem?_set]
  by_cases hi : place = i
  · subst hi
    rw [if_pos rfl, if_pos hlt, hr, Option.map_some, Option.map_some, htask]
  · rw [if_neg hi]

/-- An event gives no id up, and adds at most that of an upload. -/
theorem Effect.ids_eq {s s' : Service} {e : Event} (he : Effect s s' e) :
    s'.ids = s.ids ∨ (s'.ids = s.ids ++ [uploadedId s.desk]
      ∧ s'.desk.given = s.desk.given + 1) := by
  unfold ids
  cases he with
  | quiet runs sessions given => exact .inl (by rw [runs])
  | started t x id runs sessions at_start given =>
      exact .inr ⟨by rw [runs, List.map_append, ← id]; rfl, given⟩
  | dismissed id event runs sessions given => exact .inl (by rw [runs])
  | moved place r r' run task runs sessions there given =>
      exact .inl (by rw [runs, ids_set run task])
  | changed place r r' x x' run task runs before unfinished sessions
      there given =>
      exact .inl (by rw [runs, ids_set run task])

/-- A scan that was accepted stays one. -/
theorem Effect.mem_ids {s s' : Service} {e : Event} (he : Effect s s' e)
    {id : String} (hin : id ∈ s.ids) : id ∈ s'.ids := by
  rcases he.ids_eq with hsame | ⟨hnew, -⟩
  · exact hsame ▸ hin
  · exact hnew ▸ List.mem_append_left _ hin

/-- An event never takes back an id that was given out. -/
theorem Effect.given_le {s s' : Service} {e : Event} (he : Effect s s' e) :
    s.desk.given ≤ s'.desk.given := by
  cases he with
  | quiet runs sessions given => exact given
  | started t x id runs sessions at_start given => omega
  | dismissed id event runs sessions given => exact Nat.le_of_eq given.symm
  | moved place r r' run task runs sessions there given =>
      exact Nat.le_of_eq given.symm
  | changed place r r' x x' run task runs before unfinished sessions
      there given =>
      exact Nat.le_of_eq given.symm

/-- A session that is there after an event is new, or was there before. -/
theorem Effect.session_before {s s' : Service} {e : Event} (he : Effect s s' e)
    {id : String} {x : Session} (hx : s'.session? id = some x) :
    (∃ y, s.session? id = some y) ∨ (id = uploadedId s.desk ∧ id ∈ s'.ids) := by
  unfold session? at hx ⊢
  cases he with
  | quiet runs sessions given => exact .inl ⟨x, sessions ▸ hx⟩
  | started t y hid runs sessions at_start given =>
      rw [sessions, Sessions.get?_put] at hx
      by_cases h : id = t.id
      · refine .inr ⟨h.trans hid, ?_⟩
        unfold ids
        rw [runs, List.map_append]
        exact List.mem_append_right _ (List.mem_singleton.2 h)
      · rw [if_neg h] at hx
        exact .inl ⟨x, hx⟩
  | dismissed id' event runs sessions given =>
      rw [sessions, Sessions.get?_erase] at hx
      split at hx
      · cases hx
      · exact .inl ⟨x, hx⟩
  | moved place r r' run task runs sessions there given =>
      exact .inl ⟨x, sessions ▸ hx⟩
  | changed place r r' y x' run task runs before unfinished sessions
      there given =>
      rw [sessions, Sessions.get?_put] at hx
      by_cases h : id = r.task.id
      · exact .inl ⟨y, h ▸ before⟩
      · rw [if_neg h] at hx
        exact .inl ⟨x, hx⟩

/-- After an event every session is as it should be at the point of its run. -/
theorem Effect.placed {s s' : Service} {e : Event} (he : Effect s s' e)
    (h : s.Sound) :
    ∀ (i : Nat) (r : Run), s'.runs[i]? = some r →
      ∀ x, s'.session? r.task.id = some x → AtPoint x r.point := by
  unfold session?
  cases he with
  | quiet runs sessions given =>
      rw [runs, sessions]
      exact h.placed
  | started t y hid runs sessions at_start given =>
      intro i r hr x hx
      rw [runs, List.getElem?_append] at hr
      rw [sessions, Sessions.get?_put] at hx
      by_cases hi : i < s.runs.length
      · rw [if_pos hi] at hr
        -- an older run is of another scan
        have hother : r.task.id ≠ t.id := by
          intro heq
          exact h.uploadedId_fresh (hid ▸ heq ▸ List.mem_map.2 ⟨r,
            List.mem_of_getElem? hr, rfl⟩)
        rw [if_neg hother] at hx
        exact h.placed i r hr x hx
      · rw [if_neg hi] at hr
        obtain rfl : r = ⟨t, .queued, none⟩ :=
          List.mem_singleton.1 (List.mem_of_getElem? hr)
        rw [if_pos rfl] at hx
        exact Option.some.inj hx ▸ at_start
  | dismissed id event runs sessions given =>
      intro i r hr x hx
      rw [runs] at hr
      rw [sessions, Sessions.get?_erase] at hx
      split at hx
      · cases hx
      · exact h.placed i r hr x hx
  | moved place r₀ r' run task runs sessions there given =>
      intro i r hr x hx
      rw [runs, List.getElem?_set] at hr
      rw [sessions] at hx
      by_cases hi : place = i
      · rw [if_pos hi] at hr
        split at hr
        · obtain rfl := Option.some.inj hr
          exact there x (task ▸ hx)
        · cases hr
      · rw [if_neg hi] at hr
        exact h.placed i r hr x hx
  | changed place r₀ r' y x' run task runs before unfinished sessions
      there given =>
      intro i r hr x hx
      rw [runs, List.getElem?_set] at hr
      rw [sessions, Sessions.get?_put] at hx
      by_cases hi : place = i
      · rw [if_pos hi] at hr
        split at hr
        · obtain rfl := Option.some.inj hr
          rw [if_pos (by rw [task])] at hx
          exact Option.some.inj hx ▸ there
        · cases hr
      · rw [if_neg hi] at hr
        rw [if_neg fun heq => hi (h.place_eq run hr heq.symm)] at hx
        exact h.placed i r hr x hx

/-- An event keeps the service sound. -/
theorem Sound.step {s : Service} (h : s.Sound) (e : Event) :
    (s.step e).Sound := by
  obtain ⟨he, hidle⟩ := h.effect e
  refine ⟨hidle, ?_, ?_, ?_, he.placed h⟩
  · intro id hid
    rcases he.ids_eq with hsame | ⟨hnew, hgiven⟩
    · obtain ⟨k, hk, heq⟩ := h.numbered id (hsame ▸ hid)
      exact ⟨k, Nat.le_trans hk he.given_le, heq⟩
    · rw [hnew, List.mem_append, List.mem_singleton] at hid
      rcases hid with hid | rfl
      · obtain ⟨k, hk, heq⟩ := h.numbered id hid
        exact ⟨k, Nat.le_trans hk he.given_le, heq⟩
      · exact ⟨s.desk.given + 1, Nat.le_of_eq hgiven.symm, rfl⟩
  · rcases he.ids_eq with hsame | ⟨hnew, -⟩
    · rw [hsame]
      exact h.distinct
    · rw [hnew]
      exact List.Nodup.append h.distinct (List.nodup_singleton _)
        (List.disjoint_singleton.2 h.uploadedId_fresh)
  · intro id x hx
    rcases he.session_before hx with ⟨y, hy⟩ | ⟨-, hin⟩
    · exact he.mem_ids (h.owned id y hy)
    · exact hin

/-- An event leaves a session whose scan has ended as it is, unless it cleans it
up. -/
theorem Sound.final_step {s : Service} (h : s.Sound) {e : Event} {id : String}
    {x : Session} (hx : s.session? id = some x) (hfinal : x.IsFinal)
    (hkept : e ≠ .cleanup id) : (s.step e).session? id = some x := by
  have hin := h.owned id x hx
  unfold session? at hx ⊢
  cases (h.effect e).1 with
  | quiet runs sessions given => rw [sessions, hx]
  | started t y hid runs sessions at_start given =>
      rw [sessions, Sessions.get?_put, if_neg, hx]
      exact fun heq => h.uploadedId_fresh (hid ▸ heq ▸ hin)
  | dismissed id' event runs sessions given =>
      rw [sessions, Sessions.get?_erase, if_neg, hx]
      exact fun heq => hkept (heq ▸ event)
  | moved place r r' run task runs sessions there given => rw [sessions, hx]
  | changed place r r' y x' run task runs before unfinished sessions
      there given =>
      rw [sessions, Sessions.get?_put, if_neg, hx]
      intro heq
      have hsame : some y = some x := before.symm.trans (heq ▸ hx)
      exact unfinished (Option.some.inj hsame ▸ hfinal)

/-- An event does not bring back the session of a scan that was accepted
before. -/
theorem Sound.absent_step {s : Service} (h : s.Sound) (e : Event) {id : String}
    (hin : id ∈ s.ids) (hnone : s.session? id = none) :
    id ∈ (s.step e).ids ∧ (s.step e).session? id = none := by
  obtain ⟨he, -⟩ := h.effect e
  refine ⟨he.mem_ids hin, ?_⟩
  cases hx : (s.step e).session? id with
  | none => rfl
  | some x =>
      rcases he.session_before hx with ⟨y, hy⟩ | ⟨hid, -⟩
      · rw [hnone] at hy
        cases hy
      · exact absurd (hid ▸ hin) h.uploadedId_fresh

-- ================================================================ runs

/-- Events keep the service sound. -/
theorem Sound.steps {s : Service} (h : s.Sound) (events : List Event) :
    (s.steps events).Sound := by
  induction events generalizing s with
  | nil => exact h
  | cons e rest ih => exact ih (h.step e)

/-- After any events the service is sound. -/
theorem sound_after (tree : FileTree) (events : List Event) :
    (after tree events).Sound :=
  (sound_opening tree).steps events

/-- Events leave a session whose scan has ended as it is until it is cleaned
up. -/
theorem Sound.final_steps {s : Service} (h : s.Sound) {id : String}
    {x : Session} (hx : s.session? id = some x) (hfinal : x.IsFinal)
    {events : List Event} (hkept : .cleanup id ∉ events) :
    (s.steps events).session? id = some x := by
  induction events generalizing s with
  | nil => exact hx
  | cons e rest ih =>
      obtain ⟨hne, hrest⟩ := List.ne_and_not_mem_of_not_mem_cons hkept
      exact ih (h.step e) (h.final_step hx hfinal hne.symm) hrest

/-- Events do not bring back the session of a scan that was accepted before. -/
theorem Sound.absent_steps {s : Service} (h : s.Sound) {id : String}
    (hin : id ∈ s.ids) (hnone : s.session? id = none) (events : List Event) :
    (s.steps events).session? id = none := by
  induction events generalizing s with
  | nil => exact hnone
  | cons e rest ih =>
      obtain ⟨hin', hnone'⟩ := h.absent_step e hin hnone
      exact ih (h.step e) hin' hnone'

/-- A cleanup takes the session away, and the scan stays one that was
accepted. -/
theorem Sound.cleanup_step {s : Service} (h : s.Sound) {id : String}
    {x : Session} (hx : s.session? id = some x) :
    id ∈ (s.step (.cleanup id)).ids ∧
      (s.step (.cleanup id)).session? id = none := by
  obtain ⟨hs, -, -⟩ := cleanup_erases id s.desk
  have hthere : (s.desk.sessions.get? id).isSome = true := by
    rw [show s.desk.sessions.get? id = some x from hx]
    rfl
  rw [if_pos hthere] at hs
  refine ⟨(h.effect (.cleanup id)).1.mem_ids (h.owned id x hx), ?_⟩
  show ((MemoryService.cleanup id).run.run s.desk).2.sessions.get? id = none
  rw [hs, Sessions.get?_erase, if_pos rfl]

/-- Every session of a sound service is consistent. -/
theorem Sound.consistent {s : Service} (h : s.Sound) {id : String} {x : Session}
    (hx : s.session? id = some x) : x.Consistent := by
  obtain ⟨r, hr, rfl⟩ := List.mem_map.1 (h.owned id x hx)
  obtain ⟨i, hi⟩ := List.getElem?_of_mem hr
  exact (h.placed i r hi x hx).consistent

end Service

/-- The progress of a consistent session is a percentage. -/
theorem progress_of_consistent {x : Session} (h : x.Consistent) :
    0 ≤ x.progress.getD 0 ∧ x.progress.getD 0 ≤ 100 := by
  rcases h with ⟨-, hp, -⟩ | ⟨-, hp | hp | hp, -⟩ | ⟨-, hp, -⟩ | ⟨-, hp, -⟩ <;>
    rw [hp] <;> decide

/-- How far a scan with a consistent session is can always be said. -/
theorem status_of_consistent {d : Desk} {id : String} {x : Session}
    (hx : d.sessions.get? id = some x) (h : x.Consistent) :
    (status id).run.run d
      = (.ok
        (.record
          (Schema.statusEntries id x.status (x.progress.getD 0) x.start.iso
            (x.finish.map Moment.iso) (x.message.getD ""))), d) := by
  obtain ⟨hleast, hmost⟩ := progress_of_consistent h
  have hmade := Schema.make_scanStatus id x.status hleast hmost x.start.iso
    (x.finish.map Moment.iso) (x.message.getD "")
  have hentries : sessionStatus id x = ofOutcome (Schema.make Schema.scanStatus
      (Schema.statusEntries id x.status (x.progress.getD 0) x.start.iso
        (x.finish.map Moment.iso) (x.message.getD ""))) := by
    unfold sessionStatus Schema.statusEntries
    rw [Option.map_map]
    rfl
  unfold status
  rw [run_bind, run_asked, hx]
  show (sessionStatus id x).run.run d = _
  rw [hentries, hmade]
  rfl

/-- After any events: every session is consistent; one whose scan has ended
stays as it is until it is cleaned up; one that is cleaned up never comes back;
and asking how far a scan is never fails for a scan that has a session. -/
theorem sessions_consistent_under_interleaving (tree : FileTree)
    (events : List Event) : let s := Service.after tree events
    (∀ id x, s.session? id = some x → x.Consistent)
      ∧ (∀ id x, s.session? id = some x → x.IsFinal → ∀ more,
        .cleanup id ∉ more →
          (Service.after tree (events ++ more)).session? id = some x)
      ∧ (∀ id x, s.session? id = some x → ∀ more,
          (Service.after tree (events ++ .cleanup id :: more)).session? id
            = none)
      ∧ ∀ id x, s.session? id = some x →
          (status id).run.run s.desk
            = (.ok
              (.record
                (Schema.statusEntries id x.status
                  (x.progress.getD 0) x.start.iso (x.finish.map Moment.iso)
                    (x.message.getD ""))), s.desk) := by
  intro s
  have h : s.Sound := Service.sound_after tree events
  have hmore : ∀ more, Service.after tree (events ++ more) = s.steps more :=
    fun more => List.foldl_append
  refine ⟨fun id x hx => h.consistent hx, ?_, ?_, fun id x hx =>
    status_of_consistent hx (h.consistent hx)⟩
  · intro id x hx hfinal more hkept
    rw [hmore]
    exact h.final_steps hx hfinal hkept
  · intro id x hx more
    obtain ⟨hin, hnone⟩ := h.cleanup_step hx
    rw [hmore]
    exact (h.step (.cleanup id)).absent_steps hin hnone more

end SourceAudit.MemoryService
