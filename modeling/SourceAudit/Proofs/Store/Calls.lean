/-
What an action asks of a store.

Each call takes the next reply and is written down, whatever the reply is: a
failure of the store ends the action but not the record of what was asked.
`run_rows` says so of a query, and the other equations say how actions that
follow or replace each other hand the ledger on.
-/
import SourceAudit.Store.Client

namespace SourceAudit

-- ============================================================= running

section

variable {σ α β : Type}

/-- One thing after another, the first of which may fail. -/
theorem run_bind (a : ExceptT Fault (StateM σ) α)
    (k : α → ExceptT Fault (StateM σ) β) (s : σ) :
    (a >>= k).run.run s
      = match a.run.run s with
        | (.ok x, s') => (k x).run.run s'
        | (.error f, s') => (.error f, s') := by
  rw [ExceptT.run_bind, StateT.run_bind]
  cases a.run.run s with
  | mk r s' => cases r <;> rfl

/-- Something with another thing to fall back on. -/
theorem run_tryCatch (a : ExceptT Fault (StateM σ) α)
    (k : Fault → ExceptT Fault (StateM σ) α) (s : σ) :
    (tryCatch a k).run.run s
      = match a.run.run s with
        | (.ok x, s') => (.ok x, s')
        | (.error f, s') => (k f).run.run s' := by
  rw [ExceptT.run_tryCatch, StateT.run_bind]
  cases a.run.run s with
  | mk r s' => cases r <;> rfl

/-- What ends well gives something. -/
theorem exists_of_isOk {a : ExceptT Fault (StateM σ) α} {s : σ}
    (h : (a.run.run s).1.isOk = true) : ∃ x s', a.run.run s = (.ok x, s') := by
  cases hrun : a.run.run s with
  | mk r s' =>
      rw [hrun] at h
      cases r with
      | ok x => exact ⟨x, s', rfl⟩
      | error f => cases h

end

namespace Store

-- ============================================================== ledger

namespace Ledger

/-- The reply to the next call. -/
def next (l : Ledger) : Reply :=
  l.replies.head?.getD (.answers (.list []) .null .null)

/-- The ledger after one more call. -/
def after (l : Ledger) (call : Call) : Ledger :=
  ⟨l.replies.tail, call :: l.calls⟩

theorem ask_eq (call : Call) (l : Ledger) :
    l.ask call = (l.next, l.after call) := by
  unfold ask next after
  cases l.replies <;> rfl

@[simp] theorem calls_after (l : Ledger) (call : Call) :
    (l.after call).calls = call :: l.calls :=
  rfl

/-- The ledger after several more calls, each of which has taken its reply. -/
def afterAll (l : Ledger) (calls : List Call) : Ledger :=
  calls.foldl after l

@[simp] theorem afterAll_nil (l : Ledger) : l.afterAll [] = l := rfl

@[simp] theorem afterAll_cons (l : Ledger) (call : Call) (rest : List Call) :
    l.afterAll (call :: rest) = (l.after call).afterAll rest := rfl

theorem afterAll_append (l : Ledger) (first rest : List Call) :
    l.afterAll (first ++ rest) = (l.afterAll first).afterAll rest :=
  List.foldl_append

@[simp] theorem calls_afterAll (l : Ledger) (calls : List Call) :
    (l.afterAll calls).calls = calls.reverse ++ l.calls := by
  induction calls generalizing l with
  | nil => rfl
  | cons call rest ih =>
      rw [afterAll_cons, ih, calls_after, List.reverse_cons, List.append_assoc]
      rfl

/-- Calls that are made one after another, each with the reply it gets. -/
def exchanges (l : Ledger) : List Call → List (Call × Reply)
  | [] => []
  | call :: rest => (call, l.next) :: (l.after call).exchanges rest

theorem fst_mem_of_mem_exchanges {l : Ledger} {calls : List Call}
    {e : Call × Reply} (h : e ∈ l.exchanges calls) : e.1 ∈ calls := by
  induction calls generalizing l with
  | nil => cases h
  | cons call rest ih =>
      rcases List.mem_cons.1 h with rfl | hrest
      · exact List.mem_cons_self
      · exact List.mem_cons_of_mem call (ih hrest)

end Ledger

/-- The rows of a reply, unless the store fails. -/
def Reply.rows : Reply → Outcome Value
  | .answers data _ _ => .ok data
  | .fails reason => .error (.outside reason)

/-- The user of a reply, unless the store fails. -/
def Reply.user : Reply → Outcome Value
  | .answers _ _ user => .ok user
  | .fails reason => .error (.outside reason)

-- ============================================================= actions

namespace Action

/-- An action with a stand-in never fails. -/
theorem run_orElse {α : Type} (a : Action α) (fallback : α) (l : Ledger) :
    (orElse a fallback).run.run l
      = match a.run.run l with
        | (.ok x, l') => (.ok x, l')
        | (.error _, l') => (.ok fallback, l') := by
  unfold orElse
  rw [run_tryCatch]
  cases a.run.run l with
  | mk r l' => cases r <;> rfl

theorem run_ofOutcome {α : Type} (r : Outcome α) (l : Ledger) :
    (ofOutcome r).run.run l = (r, l) := by
  cases r <;> rfl

theorem run_modifyGet {α : Type} (f : Ledger → α × Ledger) (l : Ledger) :
    (modifyGet f : Action α).run.run l = (.ok (f l).1, (f l).2) := rfl

/-- Whatever is asked is one call. -/
theorem run_ask (call : Call) (l : Ledger) :
    (ask call).run.run l
      = (match l.next with
        | .answers data error user => .ok (data, error, user)
        | .fails reason => .error (.outside reason), l.after call) := by
  unfold ask
  rw [run_bind, run_modifyGet, Ledger.ask_eq]
  cases l.next <;> rfl

/-- A query is one call. -/
theorem run_rows (q : Query) (l : Ledger) :
    (rows q).run.run l = (l.next.rows, l.after (.query q)) := by
  unfold rows
  rw [run_bind, run_ask]
  cases l.next <;> rfl

/-- Asking for a user is one call. -/
theorem run_userOf (token : Value) (l : Ledger) :
    (userOf token).run.run l = (l.next.user, l.after (.user token)) := by
  unfold userOf
  rw [run_bind, run_ask]
  cases l.next <;> rfl

end Action

end Store

end SourceAudit
