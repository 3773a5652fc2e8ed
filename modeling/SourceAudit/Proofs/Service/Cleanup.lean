/-
What a cleanup does to the run of the scan whose session it takes away.

A run enters something in its session at almost every stretch. If the session is
gone, entering fails; the failure is to be entered in turn, fails again, and
escapes from the run. So a run whose scan is cleaned up before it has come to
its last points ends by a fault, and no other run does
(`run_escapes_iff_cut_short`).

The proof follows a run through the events (`Fate`): it is undisturbed until a
cleanup takes its session away, then it goes on unknowing up to the next thing
it enters, and then it has failed.
-/
import SourceAudit.Proofs.Service.Interleaving
import Mathlib.Data.List.Induction

namespace SourceAudit.MemoryService

open Handler

-- ========================================================== vocabulary

/-- At its last points a run has nothing more to enter. -/
def Point.IsLast (p : Point) : Prop :=
  p = .closing ∨ p = .ended

/-- The fault that escapes from a run when it goes on, if one does. -/
def Run.escape? (r : Run) (w : World) (found : Outcome (List Finding))
    (d : Desk) : Option Fault :=
  match r.news with
  | some _ => none
  | none =>
    match ((advance w r.task found r.point).run.run d).1 with
    | .ok _ => none
    | .error f => some f

namespace Service

/-- The fault that escapes from the run at a place in an event, if one does. -/
def escape? (s : Service) (place : Nat) : Event → Option Fault
  | .resume i w _ found =>
    if i = place then s.runs[place]?.bind fun r => r.escape? w found s.desk
      else none
  | _ => none

/-- The faults that escape from the run at a place in events, one after
another. -/
def escapes (place : Nat) : Service → List Event → List Fault
  | _, [] => []
  | s, e :: rest => (s.escape? place e).toList ++ escapes place (s.step e) rest

/-- The scan of the run at a place is cleaned up before the run comes to its
last points. -/
def CutShort (tree : FileTree) (place : Nat) (events : List Event) : Prop :=
  ∃ first rest r, events = first ++ .cleanup r.task.id :: rest
    ∧ (after tree first).runs[place]? = some r ∧ ¬ r.point.IsLast

end Service

-- ================================================================ runs

/-- A run stays that of its scan. -/
theorem Run.resume_task (r : Run) (w : World) (arrived : Bool)
    (found : Outcome (List Finding)) (d : Desk) :
    (r.resume w arrived found d).1.task = r.task := by
  unfold Run.resume
  split
  · rfl
  · split <;> rfl

section Escapes

variable {r : Run} {w : World} {found : Outcome (List Finding)} {d d' : Desk}

/-- Nothing escapes from a run that is sending a message. -/
theorem Run.escape?_news {b : Broadcast} (h : r.news = some b) :
    r.escape? w found d = none := by
  unfold Run.escape?
  rw [h]

/-- Nothing escapes from a stretch that ends well. -/
theorem Run.escape?_of_ok {next : Point × Option Broadcast} (h : r.news = none)
    (hrun : (advance w r.task found r.point).run.run d = (.ok next, d')) :
    r.escape? w found d = none := by
  unfold Run.escape?
  rw [h, hrun]

/-- What a stretch fails for escapes. -/
theorem Run.escape?_of_error {f : Fault} (h : r.news = none)
    (hrun : (advance w r.task found r.point).run.run d = (.error f, d')) :
    r.escape? w found d = some f := by
  unfold Run.escape?
  rw [h, hrun]

end Escapes

/-- Nothing escapes from a run whose session is there. -/
theorem Run.escape?_present {r : Run} {d : Desk} {x : Session}
    (hx : d.sessions.get? r.task.id = some x) (hat : AtPoint x r.point)
    (w : World) (found : Outcome (List Finding)) :
    r.escape? w found d = none := by
  cases hnews : r.news with
  | some b => exact Run.escape?_news hnews
  | none =>
      rcases advance_present (w := w) hx hat found with
        ⟨next, news, x', hrun, -⟩ | ⟨next, hrun, -⟩
      · exact Run.escape?_of_ok hnews hrun
      · exact Run.escape?_of_ok hnews hrun

/-- From a run at its last points nothing escapes, and it stays there. -/
theorem Run.resume_last {r : Run} (hlast : r.point.IsLast) (w : World)
    (arrived : Bool) (found : Outcome (List Finding)) (d : Desk) :
    r.escape? w found d = none
      ∧ ((r.resume w arrived found d).1.point = r.point
        ∨ (r.resume w arrived found d).1.point = .ended) := by
  cases hnews : r.news with
  | some b =>
      obtain ⟨news, live, hresume⟩ :=
        Service.resume_news hnews w arrived found d
      refine ⟨Run.escape?_news hnews, .inl ?_⟩
      rw [hresume]
  | none =>
      have hrun : (advance w r.task found r.point).run.run d
          = (.ok (.ended, none), d) := by
        rcases hlast with hp | hp <;> rw [hp] <;> rfl
      refine ⟨Run.escape?_of_ok hnews hrun, .inr ?_⟩
      rw [Service.resume_stretch hnews, hrun]

/-- A run that has more to enter and whose session is gone: it goes on
unknowing, or the want of the session escapes from it and ends it. -/
theorem Run.resume_absent {r : Run} {d : Desk}
    (hgone : d.sessions.get? r.task.id = none) (hearly : ¬ r.point.IsLast)
    (w : World) (arrived : Bool) (found : Outcome (List Finding)) :
    (r.escape? w found d = none ∧ ¬ (r.resume w arrived found d).1.point.IsLast)
      ∨ (r.escape? w found d = some (.unknownKey r.task.id)
        ∧ (r.resume w arrived found d).1.point = .ended) := by
  cases hnews : r.news with
  | some b =>
      obtain ⟨news, live, hresume⟩ :=
        Service.resume_news hnews w arrived found d
      refine .inl ⟨Run.escape?_news hnews, ?_⟩
      rw [hresume]
      exact hearly
  | none =>
      have hrun := run_advance_absent (w := w) hgone found r.point
      have hfails :
          (advance w r.task found r.point).run.run d
            = (.error (.unknownKey r.task.id), d) →
            r.escape? w found d = some (.unknownKey r.task.id)
              ∧ (r.resume w arrived found d).1.point = .ended := by
        intro hfault
        refine ⟨Run.escape?_of_error hnews hfault, ?_⟩
        rw [Service.resume_stretch hnews, hfault]
      cases hp : r.point with
      | queued => exact .inr (hfails (by rw [hrun, hp]))
      | opened => exact .inr (hfails (by rw [hrun, hp]))
      | listed files =>
          have hgoing : (advance w r.task found r.point).run.run d
              = (.ok (.searching files, none), d) := by rw [hrun, hp]
          refine .inl ⟨Run.escape?_of_ok hnews hgoing, ?_⟩
          rw [Service.resume_stretch hnews, hgoing]
          rintro (h | h) <;> cases h
      | searching files => exact .inr (hfails (by rw [hrun, hp]))
      | searched files findings => exact .inr (hfails (by rw [hrun, hp]))
      | closing => exact absurd (.inl hp) hearly
      | ended => exact absurd (.inr hp) hearly

namespace Service

-- ============================================================== events

/-- The sessions after work at the desk are those it leaves there. -/
theorem session?_work {α : Type} (s : Service) (k : Handler α) (id : String) :
    (s.work k).session? id = (k.run.run s.desk).2.sessions.get? id :=
  rfl

/-- An event that is not the going on of a run leaves the runs as they are, or
begins one whose session is there. -/
theorem Sound.runs_step {s : Service} (h : s.Sound) {e : Event}
    (hother : ∀ place w arrived found, e ≠ .resume place w arrived found) :
    (s.step e).runs = s.runs
      ∨ ∃ t x, (s.step e).runs = s.runs ++ [⟨t, .queued, none⟩]
        ∧ (s.step e).session? t.id = some x := by
  cases e with
  | upload w files config =>
      obtain ⟨-, hstarted⟩ := upload_starts w files config s.desk
      rcases hstarted with ⟨-, ht⟩ | ⟨hs, settings, ht⟩
      · exact .inl (work_runs h ht)
      · refine .inr ⟨⟨uploadedId s.desk, folderOf (uploadedId s.desk),
          settings, none⟩, .started w.now (folderOf (uploadedId s.desk)) none,
          ?_, ?_⟩
        · show s.runs ++
            List.map _ ((upload w files config).run.run s.desk).2.tasks = _
          rw [ht, h.idle]
          rfl
        · show (s.work (upload w files config)).session? (uploadedId s.desk) = _
          rw [session?_work, hs, Sessions.get?_put, if_pos rfl]
  | resume place w arrived found =>
      exact absurd rfl (hother place w arrived found)
  | status id => exact .inl (work_runs h (keeps_status id s.desk).2.1)
  | results w id => exact .inl (work_runs h (keeps_results w id s.desk).2.1)
  | cleanup id => exact .inl (work_runs h (cleanup_erases id s.desk).2.1)
  | connect client scan => exact .inl rfl
  | disconnect client scan => exact .inl rfl

/-- A run that goes on. -/
theorem step_resume {s : Service} {place : Nat} {r : Run}
    (hr : s.runs[place]? = some r) (w : World) (arrived : Bool)
    (found : Outcome (List Finding)) :
    s.step (.resume place w arrived found)
      = ⟨(r.resume w arrived found s.desk).2,
          s.runs.set place (r.resume w arrived found s.desk).1⟩ := by
  simp only [step, hr]

/-- Where there is no run, none goes on. -/
theorem step_resume_none {s : Service} {place : Nat}
    (hnone : s.runs[place]? = none) (w : World) (arrived : Bool)
    (found : Outcome (List Finding)) :
    s.step (.resume place w arrived found) = s := by
  simp only [step, hnone]

/-- Nothing escapes in an event that is not the going on of a run. -/
theorem escape?_other {e : Event}
    (hother : ∀ place w arrived found, e ≠ .resume place w arrived found)
    (s : Service) (place : Nat) : s.escape? place e = none := by
  cases e with
  | resume i w arrived found => exact absurd rfl (hother i w arrived found)
  | _ => rfl

/-- With an event a run goes on, or it stays where it is and nothing escapes
from it. -/
theorem Sound.run_step {s : Service} (h : s.Sound) {place : Nat} {r : Run}
    (hr : s.runs[place]? = some r) (e : Event) :
    (∃ w arrived found, e = .resume place w arrived found
        ∧ (s.step e).runs[place]? = some (r.resume w arrived found s.desk).1
        ∧ s.escape? place e = r.escape? w found s.desk)
      ∨ ((s.step e).runs[place]? = some r ∧ s.escape? place e = none) := by
  obtain ⟨hlt, -⟩ := List.getElem?_eq_some_iff.1 hr
  by_cases hresume : ∃ i w arrived found, e = .resume i w arrived found
  · obtain ⟨i, w, arrived, found, rfl⟩ := hresume
    by_cases hi : i = place
    · subst hi
      refine .inl ⟨w, arrived, found, rfl, ?_, ?_⟩
      · rw [step_resume hr]
        exact List.getElem?_set_self hlt
      · show (if i = i then s.runs[i]?.bind fun r => r.escape? w found s.desk
          else none) = _
        rw [if_pos rfl, hr]
        rfl
    · refine .inr ⟨?_, if_neg hi⟩
      cases hri : s.runs[i]? with
      | none => rw [step_resume_none hri, hr]
      | some r' =>
          rw [step_resume hri]
          exact (List.getElem?_set_ne hi).trans hr
  · have hother : ∀ i w arrived found, e ≠ .resume i w arrived found :=
      fun i w arrived found heq => hresume ⟨i, w, arrived, found, heq⟩
    refine .inr ⟨?_, escape?_other hother s place⟩
    rcases h.runs_step hother with hsame | ⟨t, x, hmore, -⟩
    · rw [hsame, hr]
    · rw [hmore, List.getElem?_append_left hlt, hr]

/-- Where there was no run, an event lets nothing escape, and a run it begins
has its session. -/
theorem Sound.no_run_step {s : Service} (h : s.Sound) {place : Nat}
    (hnone : s.runs[place]? = none) (e : Event) :
    s.escape? place e = none
      ∧ ∀ r, (s.step e).runs[place]? = some r → ∃ x,
        (s.step e).session? r.task.id = some x := by
  by_cases hresume : ∃ i w arrived found, e = .resume i w arrived found
  · obtain ⟨i, w, arrived, found, rfl⟩ := hresume
    constructor
    · show (if i = place then
        s.runs[place]?.bind fun r => r.escape? w found s.desk else none) = _
      rw [hnone]
      exact ite_self _
    · intro r hr
      have hlen : (s.step (.resume i w arrived found)).runs.length
          = s.runs.length := by
        cases hri : s.runs[i]? with
        | none => rw [step_resume_none hri]
        | some r' =>
            rw [step_resume hri]
            exact List.length_set
      obtain ⟨hlt, -⟩ := List.getElem?_eq_some_iff.1 hr
      have hbound := List.getElem?_eq_none_iff.1 hnone
      omega
  · have hother : ∀ i w arrived found, e ≠ .resume i w arrived found :=
      fun i w arrived found heq => hresume ⟨i, w, arrived, found, heq⟩
    refine ⟨escape?_other hother s place, fun r hr => ?_⟩
    rcases h.runs_step hother with hsame | ⟨t, x, hmore, hx⟩
    · rw [hsame, hnone] at hr
      cases hr
    · rw [hmore,
        List.getElem?_append_right (List.getElem?_eq_none_iff.1 hnone)] at hr
      obtain rfl : r = ⟨t, .queued, none⟩ :=
        List.mem_singleton.1 (List.mem_of_getElem? hr)
      exact ⟨x, hx⟩

/-- An event leaves a session there, unless it cleans it up. -/
theorem Sound.present_step {s : Service} (h : s.Sound) {e : Event} {id : String}
    {x : Session} (hx : s.session? id = some x) (hkept : e ≠ .cleanup id) :
    ∃ y, (s.step e).session? id = some y := by
  unfold session? at hx ⊢
  cases (h.effect e).1 with
  | quiet runs sessions given => exact ⟨x, sessions ▸ hx⟩
  | started t y hid runs sessions at_start given =>
      rw [sessions, Sessions.get?_put]
      split
      · exact ⟨y, rfl⟩
      · exact ⟨x, hx⟩
  | dismissed id' event runs sessions given =>
      have hne : id ≠ id' := fun heq => hkept (heq ▸ event)
      rw [sessions, Sessions.get?_erase, if_neg hne]
      exact ⟨x, hx⟩
  | moved place r r' run task runs sessions there given =>
      exact ⟨x, sessions ▸ hx⟩
  | changed place r r' y x' run task runs before unfinished sessions
      there given =>
      rw [sessions, Sessions.get?_put]
      split
      · exact ⟨x', rfl⟩
      · exact ⟨x, hx⟩

-- =========================================================== histories

/-- The service after one more event. -/
theorem after_concat (tree : FileTree) (events : List Event) (e : Event) :
    after tree (events ++ [e]) = (after tree events).step e :=
  List.foldl_append

/-- What escapes in one more event comes last. -/
theorem escapes_concat (place : Nat) (s : Service) (events : List Event)
    (e : Event) :
    s.escapes place (events ++ [e])
      = s.escapes place events ++
        ((s.steps events).escape? place e).toList := by
  induction events generalizing s with
  | nil => exact List.append_nil _
  | cons e' rest ih =>
      show (s.escape? place e').toList ++
        (s.step e').escapes place (rest ++ [e]) = _
      rw [ih (s.step e'), ← List.append_assoc]
      rfl

/-- A run is cut short by the last event or was so before. -/
theorem cutShort_concat {tree : FileTree} {place : Nat} {events : List Event}
    {e : Event} :
    CutShort tree place (events ++ [e])
      ↔ CutShort tree place events
        ∨ ∃ r, e = .cleanup r.task.id ∧
        (after tree events).runs[place]? = some r
          ∧ ¬ r.point.IsLast := by
  constructor
  · rintro ⟨first, rest, r, heq, hr, hearly⟩
    rcases List.eq_nil_or_concat rest with rfl | ⟨rest', e', rfl⟩
    · obtain ⟨rfl, he⟩ := List.append_inj' heq rfl
      exact .inr ⟨r, List.singleton_inj.1 he, hr, hearly⟩
    · rw [List.concat_eq_append, ← List.cons_append, ← List.append_assoc] at heq
      obtain ⟨hevents, -⟩ := List.append_inj' heq rfl
      exact .inl ⟨first, rest', r, hevents, hr, hearly⟩
  · rintro (⟨first, rest, r, rfl, hr, hearly⟩ | ⟨r, rfl, hr, hearly⟩)
    · exact ⟨first, rest ++ [e], r, List.append_assoc _ _ _, hr, hearly⟩
    · exact ⟨events, [], r, rfl, hr, hearly⟩

/-- How the run at a place has fared in events, from the opening of the
service. -/
inductive Fate (tree : FileTree) (place : Nat) (events : List Event) :
    Prop where
  /-- If there is a run, then its session is there or it needs none. -/
  | undisturbed (quiet : (opening tree).escapes place events = [])
      (whole : ¬ CutShort tree place events)
      (there : ∀ r, (after tree events).runs[place]? = some r →
        r.point.IsLast ∨ ∃ x, (after tree events).session? r.task.id = some x)
  /-- Its session is gone, and the run goes on unknowing. -/
  | unknowing (r : Run) (run : (after tree events).runs[place]? = some r)
      (quiet : (opening tree).escapes place events = [])
      (cut : CutShort tree place events)
      (gone : (after tree events).session? r.task.id = none)
      (early : ¬ r.point.IsLast)
  /-- The want of its session has escaped from the run, once. -/
  | failed (r : Run) (run : (after tree events).runs[place]? = some r)
      (escaped : (opening tree).escapes place events = [.unknownKey r.task.id])
      (cut : CutShort tree place events)
      (gone : (after tree events).session? r.task.id = none)
      (ended : r.point = .ended)

section Fate

variable {tree : FileTree} {place : Nat} {events : List Event}

/-- What the escapes are after an event in which nothing escapes. -/
theorem escapes_of_quiet {e : Event} {faults : List Fault}
    (h : (opening tree).escapes place events = faults)
    (hquiet : (after tree events).escape? place e = none) :
    (opening tree).escapes place (events ++ [e]) = faults := by
  rw [escapes_concat, h]
  show faults ++ ((after tree events).escape? place e).toList = faults
  rw [hquiet]
  exact List.append_nil _

/-- The session of a run stays gone. -/
theorem gone_concat {r : Run} (hr : (after tree events).runs[place]? = some r)
    (hgone : (after tree events).session? r.task.id = none) (e : Event) :
    (after tree (events ++ [e])).session? r.task.id = none := by
  rw [after_concat]
  exact ((sound_after tree events).absent_step e
    (List.mem_map.2 ⟨r, List.mem_of_getElem? hr, rfl⟩) hgone).2

/-- A run is undisturbed if its session is there or it needs none. -/
theorem fate_of_there {r : Run}
    (run : (after tree events).runs[place]? = some r)
    (quiet : (opening tree).escapes place events = [])
    (whole : ¬ CutShort tree place events)
    (there : r.point.IsLast ∨ ∃ x,
      (after tree events).session? r.task.id = some x) :
    Fate tree place events := by
  refine .undisturbed quiet whole fun r' hr' => ?_
  obtain rfl := Option.some.inj (run.symm.trans hr')
  exact there

/-- One more event for a run that was undisturbed: it goes on, with its session
or without need of it. -/
theorem fate_of_resumed {r : Run}
    (hr : (after tree events).runs[place]? = some r)
    (quiet : (opening tree).escapes place events = [])
    (whole : ¬ CutShort tree place events)
    (there : r.point.IsLast ∨ ∃ x,
      (after tree events).session? r.task.id = some x)
    {w : World} {arrived : Bool} {found : Outcome (List Finding)}
    (hrun :
      (after tree (events ++ [.resume place w arrived found])).runs[place]?
        = some (r.resume w arrived found (after tree events).desk).1)
    (hescape : (after tree events).escape? place (.resume place w arrived found)
      = r.escape? w found (after tree events).desk) :
    Fate tree place (events ++ [.resume place w arrived found]) := by
  have hsound := sound_after tree events
  have hwhole :
      ¬ CutShort tree place (events ++ [.resume place w arrived found]) := by
    rw [cutShort_concat]
    rintro (hcut | ⟨r', hcleanup, -⟩)
    · exact whole hcut
    · cases hcleanup
  rcases there with hlast | ⟨x, hx⟩
  · obtain ⟨hnone, hnext⟩ :=
      Run.resume_last hlast w arrived found (after tree events).desk
    refine fate_of_there hrun (escapes_of_quiet quiet (hescape.trans hnone))
      hwhole (.inl ?_)
    rcases hnext with hsame | hended
    · exact hsame ▸ hlast
    · exact .inr hended
  · have hnone := Run.escape?_present hx (hsound.placed place r hr x hx) w found
    obtain ⟨y, hy⟩ :=
      hsound.present_step (e := .resume place w arrived found) hx
        Event.noConfusion
    refine fate_of_there hrun (escapes_of_quiet quiet (hescape.trans hnone))
      hwhole (.inr ⟨y, ?_⟩)
    rw [after_concat, Run.resume_task, hy]

/-- One more event for a run that was undisturbed and stays where it is: the
event cleans its scan up, or not. -/
theorem fate_of_passed {r : Run}
    (hr : (after tree events).runs[place]? = some r)
    (quiet : (opening tree).escapes place events = [])
    (whole : ¬ CutShort tree place events)
    (there : r.point.IsLast ∨ ∃ x,
      (after tree events).session? r.task.id = some x) {e : Event}
    (hrun : (after tree (events ++ [e])).runs[place]? = some r)
    (hescape : (after tree events).escape? place e = none) :
    Fate tree place (events ++ [e]) := by
  have hsound := sound_after tree events
  have hquiet := escapes_of_quiet quiet hescape
  by_cases hcut : e = .cleanup r.task.id ∧ ¬ r.point.IsLast
  · obtain ⟨he, hearly⟩ := hcut
    obtain ⟨x, hx⟩ := there.resolve_left hearly
    refine .unknowing r hrun hquiet
      (cutShort_concat.2 (.inr ⟨r, he, hr, hearly⟩)) ?_ hearly
    rw [after_concat, he]
    exact (hsound.cleanup_step hx).2
  · have hwhole : ¬ CutShort tree place (events ++ [e]) := by
      rw [cutShort_concat, hr]
      rintro (hbefore | ⟨r', he, hsome, hearly⟩)
      · exact whole hbefore
      · obtain rfl := Option.some.inj hsome
        exact hcut ⟨he, hearly⟩
    refine fate_of_there hrun hquiet hwhole ?_
    by_cases hlast : r.point.IsLast
    · exact .inl hlast
    · obtain ⟨x, hx⟩ := there.resolve_left hlast
      rw [after_concat]
      exact .inr (hsound.present_step hx fun he => hcut ⟨he, hlast⟩)

/-- One more event for a run that was undisturbed, or that the event begins. -/
theorem fate_of_undisturbed (quiet : (opening tree).escapes place events = [])
    (whole : ¬ CutShort tree place events)
    (there : ∀ r, (after tree events).runs[place]? = some r →
      r.point.IsLast ∨ ∃ x,
      (after tree events).session? r.task.id = some x) (e : Event) :
    Fate tree place (events ++ [e]) := by
  have hsound := sound_after tree events
  cases hr : (after tree events).runs[place]? with
  | none =>
      obtain ⟨hescape, hbegun⟩ := hsound.no_run_step hr e
      refine .undisturbed (escapes_of_quiet quiet hescape) ?_ ?_
      · rw [cutShort_concat, hr]
        rintro (hcut | ⟨r, -, hsome, -⟩)
        · exact whole hcut
        · cases hsome
      · rw [after_concat]
        exact fun r hsome => .inr (hbegun r hsome)
  | some r =>
      have hstep := hsound.run_step hr e
      rw [← after_concat] at hstep
      rcases hstep with ⟨w, arrived, found, rfl, hrun,
        hescape⟩ | ⟨hrun, hescape⟩
      · exact fate_of_resumed hr quiet whole (there r hr) hrun hescape
      · exact fate_of_passed hr quiet whole (there r hr) hrun hescape

/-- One more event for a run that goes on unknowing. -/
theorem fate_of_unknowing {r : Run}
    (run : (after tree events).runs[place]? = some r)
    (quiet : (opening tree).escapes place events = [])
    (cut : CutShort tree place events)
    (gone : (after tree events).session? r.task.id = none)
    (early : ¬ r.point.IsLast) (e : Event) :
    Fate tree place (events ++ [e]) := by
  have hcut : CutShort tree place (events ++ [e]) :=
    cutShort_concat.2 (.inl cut)
  have hgone := gone_concat run gone e
  have hstep := (sound_after tree events).run_step run e
  rw [← after_concat] at hstep
  rcases hstep with ⟨w, arrived, found, -, hrun, hescape⟩ | ⟨hrun, hescape⟩
  · have htask := r.resume_task w arrived found (after tree events).desk
    rcases Run.resume_absent gone early w arrived found with ⟨hnone,
      hearly⟩ | ⟨hfault, hended⟩
    · exact .unknowing _ hrun
        (escapes_of_quiet quiet (hescape.trans hnone)) hcut
        (by rw [htask, hgone]) hearly
    · refine .failed _ hrun ?_ hcut (by rw [htask, hgone]) hended
      rw [escapes_concat, quiet, htask]
      show ((after tree events).escape? place e).toList = _
      rw [hescape, hfault]
      rfl
  · exact .unknowing r hrun (escapes_of_quiet quiet hescape) hcut hgone early

/-- One more event for a run that has failed. -/
theorem fate_of_failed {r : Run}
    (run : (after tree events).runs[place]? = some r)
    (escaped : (opening tree).escapes place events = [.unknownKey r.task.id])
    (cut : CutShort tree place events)
    (gone : (after tree events).session? r.task.id = none)
    (ended : r.point = .ended) (e : Event) :
    Fate tree place (events ++ [e]) := by
  have hcut : CutShort tree place (events ++ [e]) :=
    cutShort_concat.2 (.inl cut)
  have hgone := gone_concat run gone e
  have hstep := (sound_after tree events).run_step run e
  rw [← after_concat] at hstep
  rcases hstep with ⟨w, arrived, found, -, hrun, hescape⟩ | ⟨hrun, hescape⟩
  · have htask := r.resume_task w arrived found (after tree events).desk
    obtain ⟨hnone, hnext⟩ :=
      Run.resume_last (.inr ended) w arrived found (after tree events).desk
    refine .failed _ hrun ?_ hcut (by rw [htask, hgone]) ?_
    · rw [htask]
      exact escapes_of_quiet escaped (hescape.trans hnone)
    · rcases hnext with hsame | hended
      · exact hsame.trans ended
      · exact hended
  · exact .failed r hrun (escapes_of_quiet escaped hescape) hcut hgone ended

/-- How a run has fared, whatever the events were. -/
theorem fate (tree : FileTree) (place : Nat) (events : List Event) :
    Fate tree place events := by
  induction events using List.reverseRecOn with
  | nil =>
      refine .undisturbed rfl ?_ fun r hr => nomatch hr
      rintro ⟨first, rest, r, heq, -⟩
      exact absurd heq.symm
        (List.append_ne_nil_of_right_ne_nil first (List.cons_ne_nil _ rest))
  | append_singleton before e ih =>
      cases ih with
      | undisturbed quiet whole there =>
          exact fate_of_undisturbed quiet whole there e
      | unknowing r run quiet cut gone early =>
          exact fate_of_unknowing run quiet cut gone early e
      | failed r run escaped cut gone ended =>
          exact fate_of_failed run escaped cut gone ended e

end Fate

end Service

/-- After any events nothing has escaped from a run, unless its scan was cleaned
up before the run came to its last points. Then the run never tells how it
ended: it has not ended yet, or the want of its session has escaped from it,
once. -/
theorem run_escapes_iff_cut_short (tree : FileTree) (place : Nat)
    (events : List Event) : let s := Service.after tree events
    let faults := (Service.opening tree).escapes place events
    (¬ Service.CutShort tree place events → faults = [])
      ∧ (Service.CutShort tree place events →
        ∃ r, s.runs[place]? = some r ∧ s.session? r.task.id = none ∧
          r.point ≠ .closing ∧ (r.point ≠ .ended → faults = [])
          ∧ (r.point = .ended → faults = [.unknownKey r.task.id])) := by
  intro s faults
  cases Service.fate tree place events with
  | undisturbed quiet whole there =>
      exact ⟨fun _ => quiet, fun hcut => absurd hcut whole⟩
  | unknowing r run quiet cut gone early =>
      exact ⟨fun _ => quiet, fun _ =>
        ⟨r, run, gone, fun hp => early (.inl hp), fun _ => quiet, fun hp =>
          absurd (.inr hp) early⟩⟩
  | failed r run escaped cut gone ended =>
      refine ⟨fun hwhole => absurd cut hwhole, fun _ =>
        ⟨r, run, gone, ?_, ?_, fun _ => escaped⟩⟩
      · rw [ended]
        exact Point.noConfusion
      · exact fun hp => absurd ended hp

/-- An upload, a cleanup of its scan, and the turn of its run. -/
def cleanedUpload : List Event :=
  let w : World := ⟨⟨2024, 1, 1, 0, 0, 0, 0⟩, [], true, none, none, false⟩
  [.upload w [("a.js", "eval(1)\n".toUTF8.toList)] none, .cleanup "scan-1",
    .resume 0 w true (.ok [])]

/-- A cleanup right after an upload makes the run of the scan fail when its turn
comes. -/
theorem cleanup_fails_waiting_run :
    (Service.opening .empty).escapes 0 cleanedUpload
      = [.unknownKey "scan-1"] := by
  have hone : ((Service.opening .empty).escapes 0 cleanedUpload).length
      = 1 := by decide +kernel
  have hids : (Service.after .empty cleanedUpload).ids = ["scan-1"] := by
    decide +kernel
  cases Service.fate .empty 0 cleanedUpload with
  | undisturbed quiet whole there => rw [quiet] at hone; cases hone
  | unknowing r run quiet cut gone early => rw [quiet] at hone; cases hone
  | failed r run escaped cut gone ended =>
      have hid : r.task.id ∈ (Service.after .empty cleanedUpload).ids :=
        List.mem_map.2 ⟨r, List.mem_of_getElem? run, rfl⟩
      rw [hids, List.mem_singleton] at hid
      rw [escaped, hid]

end SourceAudit.MemoryService
