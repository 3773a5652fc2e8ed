/-
One stretch of a scan's run, and what it does to the session of the scan.

A run goes from point to point, and at each point its session, as long as it is
there, is in one state of affairs (`Session.AtPoint`). One stretch takes the
session from the state of affairs of its point to that of the next one
(`advance_present`); where the session was taken away meanwhile, a stretch
changes nothing at all, and fails if it has something to enter
(`run_advance_absent`).
-/
import SourceAudit.Proofs.Service.Sessions

namespace SourceAudit

-- ============================================================ sessions

/-- A session whose scan has ended, one way or the other. -/
def Session.IsFinal (s : Session) : Prop :=
  s.status = "completed" ∨ s.status = "failed"

/-- The state of affairs of a session: its status goes with its progress, its
end, its result and its message. -/
def Session.Consistent (s : Session) : Prop :=
  (s.status = "started" ∧ s.progress = some 0 ∧ s.finish = none) ∨
  (s.status = "scanning" ∧
    (s.progress = some 0 ∨ s.progress = some 10 ∨ s.progress = some 90) ∧
      s.finish = none) ∨
  (s.status = "completed" ∧ s.progress = some 100 ∧ s.finish.isSome ∧
    s.result.isSome) ∨
  (s.status = "failed" ∧ s.progress = some 0 ∧ s.finish.isSome ∧
    s.message.isSome)

namespace MemoryService

open Handler

/-- A session is as it should be when the run of its scan is at a point. -/
def AtPoint (s : Session) : Point → Prop
  | .queued => s.status = "started" ∧ s.progress = some 0 ∧ s.finish = none
  | .opened => s.status = "scanning" ∧ s.progress = some 0 ∧ s.finish = none
  | .listed _ | .searching _ => s.status = "scanning" ∧ s.progress = some 10 ∧
    s.finish = none
  | .searched _ _ => s.status = "scanning" ∧ s.progress = some 90 ∧
    s.finish = none
  | .closing | .ended =>
    (s.status = "completed" ∧ s.progress = some 100 ∧ s.finish.isSome ∧
      s.result.isSome) ∨
    (s.status = "failed" ∧ s.progress = some 0 ∧ s.finish.isSome ∧
      s.message.isSome)

/-- At every point a session is consistent. -/
theorem AtPoint.consistent {s : Session} {p : Point} (h : AtPoint s p) :
    s.Consistent := by
  cases p with
  | queued => exact .inl h
  | opened => exact .inr (.inl ⟨h.1, .inl h.2.1, h.2.2⟩)
  | listed files => exact .inr (.inl ⟨h.1, .inr (.inl h.2.1), h.2.2⟩)
  | searching files => exact .inr (.inl ⟨h.1, .inr (.inl h.2.1), h.2.2⟩)
  | searched files findings => exact .inr (.inl ⟨h.1, .inr (.inr h.2.1), h.2.2⟩)
  | closing => exact .inr (.inr h)
  | ended => exact .inr (.inr h)

/-- The session of a scan that has ended is only at the last points. -/
theorem AtPoint.last_of_final {s : Session} {p : Point} (h : AtPoint s p)
    (hfinal : s.IsFinal) : p = .closing ∨ p = .ended := by
  have hopen : s.status ≠ "started" ∧ s.status ≠ "scanning" := by
    rcases hfinal with hs | hs <;> rw [hs] <;> decide
  cases p with
  | queued => exact absurd h.1 hopen.1
  | opened => exact absurd h.1 hopen.2
  | listed files => exact absurd h.1 hopen.2
  | searching files => exact absurd h.1 hopen.2
  | searched files findings => exact absurd h.1 hopen.2
  | closing => exact .inl rfl
  | ended => exact .inr rfl

/-- A completed session is as it should be at the end. -/
theorem atPoint_completed (s : Session) (now : Moment) (r : ScanResult) :
    AtPoint (s.completed now r) .closing :=
  .inl ⟨rfl, rfl, rfl, rfl⟩

/-- A failed session is as it should be at the end. -/
theorem atPoint_failed (s : Session) (now : Moment) (why : String) :
    AtPoint (s.failed now why) .closing :=
  .inr ⟨rfl, rfl, rfl, rfl⟩

-- ============================================================= answers

/-- What a run makes of the answer of the security scan. -/
def takeAnswer (w : World) (t : ScanTask) (files : List String)
    (found : Outcome (List Finding)) : Handler (Point × Option Broadcast) :=
  tryCatch (do
      let findings ← ofOutcome found
      change t.id fun s => { s with progress := some 90 }
      return (.searched files findings, ← announce w t.id "scanning" 90 ""))
    fun why => do complete w t (← ofOutcome (fallback w files why))

section Answers

variable {w : World} {t : ScanTask} {d : Desk} (files : List String)

/-- Findings are told of, and entered later. -/
theorem run_takeAnswer {s : Session} (h : d.sessions.get? t.id = some s)
    (findings : List Finding) :
    ∃ news, (takeAnswer w t files (.ok findings)).run.run d
      = (.ok (.searched files findings, news),
        { d with
          sessions :=
            d.sessions.put t.id { s with progress := some 90 } }) := by
  unfold takeAnswer
  rw [run_tryCatch, run_bind, run_ofOutcome]
  dsimp only
  rw [run_bind, run_change, h]
  exact ⟨_, rfl⟩

/-- Where the scan failed, its result is made up. -/
theorem run_takeAnswer_error (why : Fault) :
    (takeAnswer w t files (.error why)).run.run d
      = (ofOutcome (fallback w files why) >>= complete w t).run.run d := by
  unfold takeAnswer
  rw [run_tryCatch, run_bind, run_ofOutcome]

/-- So it is where there is no session to tell of findings in. -/
theorem run_takeAnswer_absent (h : d.sessions.get? t.id = none)
    (findings : List Finding) :
    (takeAnswer w t files (.ok findings)).run.run d
      = (ofOutcome (fallback w files (.unknownKey t.id)) >>=
        complete w t).run.run d := by
  unfold takeAnswer
  rw [run_tryCatch, run_bind, run_ofOutcome]
  dsimp only
  rw [run_bind, run_change, h]

end Answers

-- =========================================================== stretches

/-- Work that leaves the session of a scan as it should be at the next point,
and everything else on the desk as it was. -/
def Reaches (t : ScanTask) (d : Desk)
    (r : Except Fault (Point × Option Broadcast) × Desk) : Prop :=
  ∃ next news s', r
    = (.ok (next, news), { d with sessions := d.sessions.put t.id s' })
    ∧ AtPoint s' next

section Present

variable {w : World} {t : ScanTask} {d : Desk} {s : Session}

/-- Changing the session and telling so. -/
theorem run_change_announce (h : d.sessions.get? t.id = some s)
    (f : Session → Session) (next : Point) (status : String) (progress : Int)
    (message : String) :
    ∃ news, (do
        change t.id f
        return (next, ← announce w t.id status progress message) :
          Handler (Point × Option Broadcast)).run.run d
      = (.ok (next, news),
        { d with sessions := d.sessions.put t.id (f s) }) := by
  rw [run_bind, run_change, h]
  exact ⟨_, rfl⟩

/-- Entering a result. -/
theorem complete_reaches (h : d.sessions.get? t.id = some s) (r : ScanResult) :
    Reaches t d ((complete w t r).run.run d) := by
  obtain ⟨news, hrun⟩ :=
    run_change_announce (w := w) h (fun s => s.completed w.now r) .closing
      "completed" 100 ""
  exact ⟨.closing, news, _, hrun, atPoint_completed s w.now r⟩

/-- Guarded work that gets somewhere. -/
theorem guarded_reaches {work : Handler (Point × Option Broadcast)}
    (h : Reaches t d (work.run.run d)) :
    Reaches t d ((guarded w t work).run.run d) := by
  obtain ⟨next, news, s', hrun, hat⟩ := h
  unfold guarded
  rw [run_tryCatch, hrun]
  exact ⟨next, news, s', rfl, hat⟩

/-- Guarded work that fails before it changed anything. -/
theorem guarded_fails (h : d.sessions.get? t.id = some s)
    {work : Handler (Point × Option Broadcast)} {f : Fault}
    (hwork : work.run.run d = (.error f, d)) :
    Reaches t d ((guarded w t work).run.run d) := by
  unfold guarded
  rw [run_tryCatch, hwork]
  obtain ⟨news, hrun⟩ :=
    run_change_announce (w := w) h (fun s => s.failed w.now f.message)
      .closing "failed" 0 f.message
  exact ⟨.closing, news, _, hrun, atPoint_failed s w.now f.message⟩

end Present

/-- A stretch of a run whose session is there: the session is then as it should
be at the next point. -/
theorem advance_present {w : World} {t : ScanTask} {d : Desk} {s : Session}
    (h : d.sessions.get? t.id = some s) {p : Point} (hat : AtPoint s p)
    (found : Outcome (List Finding)) :
    Reaches t d ((advance w t found p).run.run d)
      ∨ ∃ next, (advance w t found p).run.run d = (.ok (next, none), d) ∧
      AtPoint s next := by
  cases p with
  | queued =>
      obtain ⟨news, hrun⟩ :=
        run_change_announce (w := w) h (fun s =>
            { s with status := "scanning" })
        .opened "scanning" 0 ""
      exact .inl (guarded_reaches ⟨.opened, news, _, hrun, rfl,
        hat.2.1, hat.2.2⟩)
  | opened =>
      left
      cases hset : Auditor.ofSettings t.settings with
      | error f =>
          refine guarded_fails h (f := f) ?_
          rw [run_bind, hset]
          rfl
      | ok a =>
          obtain ⟨news, hrun⟩ := run_change_announce (w := w) h
            (fun s => { s with progress := some 10 })
              (.listed (filesOf d.tree t.folder))
            "scanning" 10 ""
          refine guarded_reaches
            ⟨.listed (filesOf d.tree t.folder), news,
              { s with progress := some 10 }, ?_, hat.1, rfl, hat.2.2⟩
          rw [run_bind, hset]
          exact hrun
  | listed files => exact .inr ⟨.searching files, rfl, hat⟩
  | searching files =>
      left
      cases found with
      | ok findings =>
          obtain ⟨news, hrun⟩ := run_takeAnswer (w := w) files h findings
          exact guarded_reaches ⟨.searched files findings, news, _, hrun, hat.1,
            rfl, hat.2.2⟩
      | error why =>
          -- the security scan failed: its result is made up, which may fail in
          -- turn
          have hrun := run_takeAnswer_error (w := w) (t := t) (d := d) files why
          cases hmade : fallback w files why with
          | error f =>
              rw [hmade] at hrun
              exact guarded_fails h hrun
          | ok r =>
              rw [hmade] at hrun
              exact guarded_reaches (hrun ▸ complete_reaches h r)
  | searched files findings =>
      exact .inl (guarded_reaches (complete_reaches h _))
  | closing => exact .inr ⟨.ended, rfl, hat⟩
  | ended => exact .inr ⟨.ended, rfl, hat⟩

-- ============================================================= absence

section Absent

variable {w : World} {t : ScanTask} {d : Desk}

/-- A session that is not there cannot be changed. -/
theorem run_change_absent {α : Type} (h : d.sessions.get? t.id = none)
    (f : Session → Session) (k : Unit → Handler α) :
    (change t.id f >>= k).run.run d = (.error (.unknownKey t.id), d) := by
  rw [run_bind, run_change, h]

/-- Guarded work that fails for want of the session fails altogether. -/
theorem guarded_absent (h : d.sessions.get? t.id = none)
    {work : Handler (Point × Option Broadcast)} {f : Fault}
    (hwork : work.run.run d = (.error f, d)) :
    (guarded w t work).run.run d = (.error (.unknownKey t.id), d) := by
  unfold guarded
  rw [run_tryCatch, hwork]
  exact run_change_absent h _ _

/-- A stretch of a run whose session was taken away: one that would enter
something fails for want of it, the others go on, and the desk stays as it
is. -/
theorem run_advance_absent (h : d.sessions.get? t.id = none)
    (found : Outcome (List Finding)) (p : Point) :
    (advance w t found p).run.run d
      = (match p with
          | .listed files => .ok (.searching files, none)
          | .closing | .ended => .ok (.ended, none)
          | _ => .error (.unknownKey t.id), d) := by
  cases p with
  | queued => exact guarded_absent h (run_change_absent h _ _)
  | opened =>
      cases hset : Auditor.ofSettings t.settings with
      | error f =>
          refine guarded_absent h (f := f) ?_
          rw [run_bind, hset]
          rfl
      | ok a =>
          refine guarded_absent h (f := .unknownKey t.id) ?_
          rw [run_bind, hset]
          exact run_change_absent h _ _
  | listed files => rfl
  | searching files =>
      -- whatever the security scan gave, entering it fails, and so does the
      -- stand-in
      have hcomplete : ∀ r, (complete w t r).run.run d
          = (.error (.unknownKey t.id), d) :=
        fun r => run_change_absent h _ _
      have hstandIn : ∀ why, ∃ f,
          ((ofOutcome (fallback w files why)) >>= complete w t).run.run d
            = (.error f, d) := by
        intro why
        cases fallback w files why with
        | error f => exact ⟨f, rfl⟩
        | ok r => exact ⟨_, hcomplete r⟩
      cases found with
      | ok findings =>
          obtain ⟨f, hf⟩ := hstandIn (.unknownKey t.id)
          exact guarded_absent h
            ((run_takeAnswer_absent files h findings).trans hf)
      | error why =>
          obtain ⟨f, hf⟩ := hstandIn why
          exact guarded_absent h ((run_takeAnswer_error files why).trans hf)
  | searched files findings => exact guarded_absent h (run_change_absent h _ _)
  | closing => rfl
  | ended => rfl

/-- A stretch of a run whose session was taken away leaves the desk as it is. -/
theorem advance_absent (h : d.sessions.get? t.id = none)
    (found : Outcome (List Finding)) (p : Point) :
    ((advance w t found p).run.run d).2 = d := by
  rw [run_advance_absent h]

end Absent

end MemoryService

end SourceAudit
