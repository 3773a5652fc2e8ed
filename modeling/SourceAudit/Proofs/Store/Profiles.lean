/-
Profiles in a store of tables.

The store keeps rows by their `id`: a row that is entered takes the place of
those with the same one and has the columns it was given. Rows are picked by the
value of a column, and a row without the column is never picked. The profile of
a user is entered under the column `id`, and looked up under a column that it
does not have: it is there (`answer_byId_after_save`), and no look-up gives it
(`serve_profile_after_save`).
-/
import SourceAudit.Proofs.Store.Calls
import SourceAudit.Store.Service

namespace SourceAudit.Store

-- ============================================================== tables

/-- A row of a table: its columns with their values. -/
abbrev Row := List (String × Value)

/-- Whether a column of a row has a value; a column that is missing has none. -/
def Row.has (column : String) (v : Value) (row : Row) : Bool :=
  (Value.lookup column row).any fun x => x.same v

/-- Enters a row; it takes the place of those with the same `id`. -/
def upsertRow (row : Row) (rows : List Row) : List Row :=
  (rows.filter fun r => !(Value.lookup "id" row).any fun v =>
    r.has "id" v) ++ [row]

/-- The one row there is. -/
def sole? : List Row → Option Row
  | [row] => some row
  | _ => none

/-- The tables of a store, by name. -/
abbrev Tables := String → List Row

namespace Tables

/-- Tables without rows. -/
def empty : Tables := fun _ => []

/-- What is replied to a selection of rows: the rows that all steps let pass, or
the one row if just one is wanted. -/
def select (rows : List Row) : List Step → Reply
  | [] => .answers (.list (rows.map .record)) .null .null
  | ⟨"eq", [.text column, v], []⟩ :: rest =>
    select (rows.filter (Row.has column v)) rest
  | [⟨"single", [], []⟩] =>
    match sole? rows with
    | some row => .answers (.record row) .null .null
    | none => .fails "JSON object requested, multiple (or no) rows returned"
  | _ => .fails "unknown step"

/-- What tables reply to a query, and the tables after it. -/
def answer (t : Tables) (q : Query) : Reply × Tables :=
  match q.steps with
  | [⟨"table", [.text name], []⟩, ⟨"upsert", [.record row], []⟩] =>
    (.answers (.list [.record row]) .null .null,
      fun other => if other = name then upsertRow row (t name) else t other)
  | ⟨"table", [.text name], []⟩ :: ⟨"select", [.text "*"], []⟩ :: rest =>
    (select (t name) rest, t)
  | _ => (.fails "unknown query", t)

/-- What comes of an action of one call that tables reply to. The call is on
record before its reply is there. -/
def serve (t : Tables) (a : Action Value) : Outcome Value × Tables :=
  match (a.run.run (.ofReplies [])).2.calls with
  | [.query q] => ((a.run.run (.ofReplies [(t.answer q).1])).1, (t.answer q).2)
  | _ => ((a.run.run (.ofReplies [])).1, t)

end Tables

-- ============================================================ profiles

/-- What is known of a user. -/
structure Profile where
  user : String
  email : Value
  name : Value
  organization : Value
  role : Value

namespace Profile

/-- The row of a profile: the e-mail stands in for a name, and the role is that
of a user if none is given. -/
def row (p : Profile) : Row :=
  [("id", .text p.user), ("email", p.email),
   ("full_name", orValue p.name p.email), ("organization", p.organization),
   ("role_id", orValue p.role (.text "user"))]

/-- Enters a profile. -/
def save (p : Profile) : Action Value :=
  Service.saveProfile (.text p.user) p.email p.name p.organization p.role

end Profile

namespace Tables

/-- The tables after profiles have been entered. -/
def saveAll (t : Tables) (ps : List Profile) : Tables :=
  ps.foldl (fun t p => (t.serve p.save).2) t

theorem serve_save_ok (t : Tables) (p : Profile) :
    (t.serve p.save).1 = .ok (.bool true) := rfl

/-- A profile takes the place of those of its user. -/
theorem profiles_after_save (t : Tables) (p : Profile) :
    (t.serve p.save).2 "profiles" = upsertRow p.row (t "profiles") := rfl

/-- A look-up gives the one row whose `user_id` is asked for, or nothing. -/
theorem serve_profile (t : Tables) (v : Value) :
    t.serve (Service.profile v) = (.ok (Value.ofOption
      ((sole? ((t "profiles").filter (Row.has "user_id" v))).map .record)),
      t) := by
  have hserve : t.serve (Service.profile v)
      = (((Service.profile v).run.run (.ofReplies
          [select ((t "profiles").filter (Row.has "user_id" v))
            [⟨"single", [], []⟩]])).1, t) := rfl
  rw [hserve, select]
  cases sole? ((t "profiles").filter (Row.has "user_id" v)) <;> rfl

-- ======================================================= what is found

theorem mem_of_sole? {rows : List Row} {row : Row} (h : sole? rows = some row) :
    row ∈ rows := by
  unfold sole? at h
  split at h
  · obtain rfl := Option.some.inj h
    exact List.mem_singleton_self _
  · cases h

theorem not_has_userId (p : Profile) (v : Value) :
    p.row.has "user_id" v = false := rfl

/-- A profile is the one row with the `id` of its user. -/
theorem filter_id_upsertRow (p : Profile) (rows : List Row) :
    (upsertRow p.row rows).filter (Row.has "id" (.text p.user)) = [p.row] := by
  have hrow : p.row.has "id" (.text p.user) = true := by
    simp [Row.has, Profile.row, Value.lookup, Value.same]
  have hid : Value.lookup "id" p.row = some (.text p.user) := rfl
  rw [upsertRow, List.filter_append, List.filter_filter, hid]
  simp [hrow]

/-- A profile has no `user_id`, so it is not picked by one, and those whose
place it took are not either. -/
theorem filter_userId_upsertRow (p : Profile) (rows : List Row) (v : Value) :
    (upsertRow p.row rows).filter (Row.has "user_id" v)
      = rows.filter fun r => r.has "user_id" v &&
        !r.has "id" (.text p.user) := by
  have hid : Value.lookup "id" p.row = some (.text p.user) := rfl
  rw [upsertRow, List.filter_append, List.filter_filter, hid]
  simp [not_has_userId]

/-- The query for a profile under the column it is entered under. -/
def byId (user : Value) : Query :=
  (((Query.table "profiles").select "*").eq "id" user).single

theorem answer_byId_after_save (t : Tables) (p : Profile) :
    ((t.serve p.save).2.answer (byId (.text p.user))).1
      = .answers (.record p.row) .null .null := by
  have hanswer : ((t.serve p.save).2.answer (byId (.text p.user))).1
      = select
        ((upsertRow p.row (t "profiles")).filter (Row.has "id" (.text p.user)))
          [⟨"single", [], []⟩] := rfl
  rw [hanswer, filter_id_upsertRow]
  rfl

theorem serve_profile_after_save (t : Tables) (p : Profile) (v : Value) :
    ((t.serve p.save).2.serve (Service.profile v)).1 = .ok (Value.ofOption
      ((sole? ((t "profiles").filter fun r =>
        r.has "user_id" v && !r.has "id" (.text p.user))).map .record)) := by
  rw [serve_profile, profiles_after_save, filter_userId_upsertRow]

/-- What a look-up gives has a `user_id`, so it is not a profile that was
entered. -/
theorem serve_profile_ne_row (t : Tables) (p : Profile) (v : Value) :
    (t.serve (Service.profile v)).1 ≠ .ok (.record p.row) := by
  intro hgiven
  rw [serve_profile] at hgiven
  cases hsole : sole? ((t "profiles").filter (Row.has "user_id" v)) with
  | none =>
      rw [hsole] at hgiven
      cases hgiven
  | some r =>
      rw [hsole] at hgiven
      obtain rfl : r = p.row := Value.record.inj (Except.ok.inj hgiven)
      have hpicked := (List.mem_filter.1 (mem_of_sole? hsole)).2
      rw [not_has_userId] at hpicked
      cases hpicked

theorem serve_profile_eq_null {t : Tables}
    (h : ∀ r ∈ t "profiles", Value.lookup "user_id" r = none) (v : Value) :
    (t.serve (Service.profile v)).1 = .ok .null := by
  have hfilter : (t "profiles").filter (Row.has "user_id" v) = [] := by
    refine List.filter_eq_nil_iff.2 fun r hr => ?_
    rw [Row.has, h r hr]
    exact Bool.false_ne_true
  rw [serve_profile, hfilter]
  rfl

/-- Entering profiles makes no row with a `user_id`. -/
theorem forall_profiles_saveAll {t : Tables}
    (h : ∀ r ∈ t "profiles", Value.lookup "user_id" r = none)
    (ps : List Profile) :
    ∀ r ∈ t.saveAll ps "profiles", Value.lookup "user_id" r = none := by
  induction ps generalizing t with
  | nil => exact h
  | cons p rest ih =>
      have hstep : ∀ r ∈ (t.serve p.save).2 "profiles", Value.lookup "user_id" r
          = none := by
        intro r hr
        rw [profiles_after_save, upsertRow, List.mem_append,
          List.mem_singleton] at hr
        rcases hr with hold | rfl
        · exact h r (List.mem_filter.1 hold).1
        · rfl
      exact ih hstep

/-- Entering a profile succeeds, and the profile can be found under the column
it was entered under. But the look-up of a profile gives the one other row with
the `user_id` that is asked for, if there is one, and never this profile; where
all rows were entered as profiles it gives nothing for any user. -/
theorem saved_profile_never_given (t : Tables) (p : Profile) :
    (t.serve p.save).1 = .ok (.bool true) ∧
    ((t.serve p.save).2.answer (byId (.text p.user))).1
      = .answers (.record p.row) .null .null ∧
    (∀ v, ((t.serve p.save).2.serve (Service.profile v)).1 = .ok (Value.ofOption
      ((sole? ((t "profiles").filter fun r =>
        r.has "user_id" v && !r.has "id" (.text p.user))).map .record))) ∧
    (∀ v, ((t.serve p.save).2.serve (Service.profile v)).1
      ≠ .ok (.record p.row)) ∧
    ∀ ps v, ((empty.saveAll ps).serve (Service.profile v)).1 = .ok .null := by
  refine ⟨serve_save_ok t p, answer_byId_after_save t p,
    serve_profile_after_save t p, ?_, ?_⟩
  · intro v
    exact serve_profile_ne_row _ p v
  · intro ps v
    have hnone :=
      forall_profiles_saveAll (t := empty) (fun r hr => nomatch hr) ps
    exact serve_profile_eq_null hnone v

def ada : Profile := ⟨"u1", .text "ada@example.org", .text "Ada", .null, .null⟩

/-- A profile that has just been entered, the only one there is, is not given to
its user. -/
theorem saved_profile_not_read_back :
    (empty.serve ada.save).1 = .ok (.bool true) ∧
      (empty.serve ada.save).2 "profiles" = [ada.row] ∧
      ((empty.serve ada.save).2.serve (Service.profile (.text "u1"))).1
        = .ok .null :=
  ⟨rfl, rfl, rfl⟩

end Tables

end SourceAudit.Store
