/-
Which scans the store knows are reported missing all the same.

An answer is made of the rows of the store. A row that lacks a column fails as
such, but a row with a value of the wrong kind or content is taken for a scan
the store does not know, and the scan is looked for in memory, where it is not.
So each step from rows to an answer is judged in three ways (`Judged`): it
succeeds, it lacks a column, or it is unfit. What a step asks of a row is said
by the shapes of the messages (`Accepts`), and a scan is reported missing just
if its rows are unfit (`reported_missing_iff`).
-/
import SourceAudit.Proofs.Schema.Refitting
import SourceAudit.Proofs.Service.Completion

namespace SourceAudit

open Schema

-- ========================================================== judgements

/-- How an outcome comes about: what is asked for is there and fits, or it is
not there, or it is there and does not fit. -/
inductive Judged {α : Type} (fits lacks : Prop) : Outcome α → Prop
  | ok (a : α) (hfits : fits) (hlacks : ¬lacks) : Judged fits lacks (.ok a)
  | lacking (name : String) (hfits : ¬fits) (hlacks : lacks) :
      Judged fits lacks (.error (.unknownKey name))
  | unfit {f : Fault} (hf : f.isUnfit = true) (hfits : ¬fits)
    (hlacks : ¬lacks) :
      Judged fits lacks (.error f)

namespace Judged

variable {α β : Type} {fits lacks fits' lacks' : Prop} {r : Outcome α}

theorem congr (h : Judged fits lacks r) (hfits : fits ↔ fits')
    (hlacks : lacks ↔ lacks') : Judged fits' lacks' r := by
  rw [← propext hfits, ← propext hlacks]
  exact h

theorem not_lacks (h : Judged fits lacks r) (hfits : fits) : ¬lacks := by
  cases h with
  | ok _ _ hlacks => exact hlacks
  | lacking _ hno _ => exact absurd hfits hno
  | unfit _ hno _ => exact absurd hfits hno

/-- One step after another: the second is judged if the first succeeds. -/
theorem bind (h : Judged fits lacks r) {k : α → Outcome β}
    (hk : ∀ a, r = .ok a → Judged fits' lacks' (k a)) :
    Judged (fits ∧ fits') (lacks ∨ fits ∧ lacks') (r >>= k) := by
  cases h with
  | lacking name hfits hlacks =>
      exact .lacking name (fun h => hfits h.1) (.inl hlacks)
  | unfit hf hfits hlacks =>
      exact .unfit hf (fun h => hfits h.1) (fun h => h.elim hlacks fun h =>
        hfits h.1)
  | ok a hfits hlacks =>
      have hlast := hk a rfl
      refine hlast.congr ?_ ?_
      · simp [hfits]
      · simp [hfits, hlacks]

end Judged

/-- The fields that have to be there. -/
theorem judged_pick (fields : List (String × Value)) (name : String) :
    Judged ((Value.lookup name fields).isSome = true)
      (Value.lookup name fields = none)
      ((Value.record fields).pick name) := by
  unfold Value.pick
  dsimp only
  cases Value.lookup name fields with
  | none => exact .lacking name Bool.false_ne_true rfl
  | some v => exact .ok v rfl (Option.some_ne_none v)

theorem lookup_of_pick {fields : List (String × Value)} {name : String}
    {v : Value} (h : (Value.record fields).pick name = .ok v) :
    Value.lookup name fields = some v := by
  unfold Value.pick at h
  dsimp only at h
  cases hlookup : Value.lookup name fields with
  | none =>
      rw [hlookup] at h
      cases h
  | some x =>
      rw [hlookup] at h
      rw [Except.ok.inj h]

/-- A message is made of entries that fit. -/
theorem judged_make (s : Shape) (entries : List (String × Value)) :
    Judged (Accepts s (.record entries)) False (make s entries) := by
  rw [← isOk_fit_iff]
  unfold make
  cases fit s (.record entries) with
  | ok v => exact .ok v rfl id
  | error problems => exact .unfit rfl Bool.false_ne_true id

/-- Some item lacks what is asked for, and those before it fit. -/
def FirstLacks {α : Type} (fits lacks : α → Prop) : List α → Prop
  | [] => False
  | x :: rest => lacks x ∨ fits x ∧ FirstLacks fits lacks rest

/-- The first of several steps that does not succeed decides. -/
theorem judged_mapM {α β : Type} {fits lacks : α → Prop} {step : α → Outcome β}
    (h : ∀ x, Judged (fits x) (lacks x) (step x)) (xs : List α) :
    Judged (∀ x ∈ xs, fits x) (FirstLacks fits lacks xs) (xs.mapM step) := by
  induction xs with
  | nil => exact .ok [] (by simp) id
  | cons x rest ih =>
      have hrest (y : β) :
        Judged (∀ x ∈ rest, fits x) (FirstLacks fits lacks rest)
          (rest.mapM step >>= fun ys => pure (y :: ys)) :=
        (ih.bind fun ys _ => .ok (y :: ys) trivial id).congr
          (and_iff_left trivial) (by simp)
      rw [List.mapM_cons, List.forall_mem_cons]
      exact (h x).bind fun y _ => hrest y

theorem firstLacks_false {α : Type} {fits : α → Prop} (xs : List α) :
    FirstLacks fits (fun _ => False) xs ↔ False := by
  induction xs with
  | nil => exact Iff.rfl
  | cons x rest ih =>
      rw [FirstLacks, ih]
      simp

-- ============================================================= columns

namespace Schema

/-- The shape without some of its fields. -/
def Shape.without (names : List String) : Shape → Shape
  | .fields shapes => .fields (shapes.filter fun f => !names.contains f.1)
  | s => s

/-- What a field is given once it has been filled in beforehand: what it was
given, or a value that is of its shape just if the field may be left open. -/
def Filled (f : String × Shape × Option Value)
    (given filled : Option Value) : Prop :=
  filled = given ∨ ∃ x, filled = some (given.getD x) ∧
    (Accepts f.2.1 x ↔ f.2.2.isSome = true)

/-- Filling in a field beforehand does not change whether it is taken. -/
theorem Filled.takes_iff {f : String × Shape × Option Value}
    {given filled : Option Value} (h : Filled f given filled) : Takes f filled ↔
      Takes f given := by
  obtain rfl | ⟨x, rfl, hx⟩ := h
  · exact Iff.rfl
  · cases given with
    | none => exact hx
    | some v => exact Iff.rfl

theorem filled_usually {name : String} {s : Shape} {usual : Value}
    (h : Accepts s usual) (given : Option Value) :
    Filled (usually name s usual) given (some (given.getD usual)) :=
  .inr ⟨usual, rfl, iff_of_true h rfl⟩

theorem filled_maybe {name : String} {s : Shape} (given : Option Value) :
    Filled (maybe name s) given (some (given.getD .null)) :=
  filled_usually (.absent s) given

theorem takes_usually {name : String} {s : Shape} {usual : Value}
    (h : Accepts s usual) (given : Option Value) :
    Takes (usually name s usual) given ↔ Accepts s (given.getD usual) :=
  (filled_usually h given).takes_iff.symm

/-- Entries that fill in fields are taken just if the fields are, those aside
that do not come from them. -/
theorem accepts_filled_iff {names : List String}
    {shapes : List (String × Shape × Option Value)}
    {fields entries : List (String × Value)}
    (hother : ∀ f ∈ shapes, f.1 ∈ names → Takes f (Value.lookup f.1 entries))
    (hfilled : ∀ f ∈ shapes, f.1 ∉ names →
      Filled f (Value.lookup f.1 fields) (Value.lookup f.1 entries)) :
    Accepts (.fields shapes) (.record entries) ↔
      Accepts (Shape.without names (.fields shapes)) (.record fields) := by
  rw [Shape.without, accepts_record_iff, accepts_record_iff]
  simp only [List.mem_filter, Bool.not_eq_true', List.contains_eq_mem,
    decide_eq_false_iff_not]
  constructor
  · exact fun h f hf => (hfilled f hf.1 hf.2).takes_iff.1 (h f hf.1)
  · intro h f hf
    by_cases hname : f.1 ∈ names
    · exact hother f hf hname
    · exact (hfilled f hf hname).takes_iff.2 (h f ⟨hf, hname⟩)

/-- The fields that are left take what is given for them. -/
theorem takes_of_without {names : List String}
    {shapes : List (String × Shape × Option Value)}
    {fields : List (String × Value)}
    (h : Accepts (Shape.without names (.fields shapes)) (.record fields))
    {f : String × Shape × Option Value} (hf : f ∈ shapes)
    (hname : f.1 ∉ names) : Takes f (Value.lookup f.1 fields) :=
  accepts_record_iff.1 h f (List.mem_filter.2 ⟨hf, by simpa using hname⟩)

/-- A field without a value of its own has to be given. -/
theorem isSome_of_takes {name : String} {s : Shape} {given : Option Value}
    (h : Takes (needed name s) given) : given.isSome = true := by
  cases given with
  | some v => rfl
  | none => cases h

end Schema

namespace AccountService

open Handler Store

-- ============================================================ statuses

/-- A value that is read as a moment, or counts as absent. -/
def ReadsAsMoment (v : Value) : Prop :=
  v.isTruthy = false ∨ ∃ s m, v = .text s ∧ Moment.ofText? s = some m

/-- The columns of a scan that tell how far it is. -/
def progressColumns : Shape :=
  .fields [needed "status" .text,
    usually "progress" (.whole (some 0) (some 100)) (.int 0),
    usually "name" .text (.text "")]

/-- A row that can be answered with how far the scan is. -/
structure StatusFits (fields : List (String × Value)) : Prop where
  columns : Accepts progressColumns (.record fields)
  started : ReadsAsMoment ((Value.lookup "started_at" fields).getD .null)
  completed : ReadsAsMoment ((Value.lookup "completed_at" fields).getD .null)

theorem judged_momentIn (fields : List (String × Value)) (name : String)
    (fallback : Value) :
    Judged (ReadsAsMoment ((Value.lookup name fields).getD .null)) False
      (momentIn (.record fields) name fallback) := by
  show Judged _ _ (if !((Value.lookup name fields).getD .null).isTruthy then
    pure fallback else _)
  generalize (Value.lookup name fields).getD .null = v
  by_cases htruthy : v.isTruthy = true
  · rw [if_neg (by simpa using htruthy)]
    have hreads : ReadsAsMoment v ↔ ∃ s m, v = .text s ∧
        Moment.ofText? s = some m := by
      unfold ReadsAsMoment
      rw [htruthy]
      simp
    rw [hreads]
    cases v with
    | text s =>
        dsimp only
        cases hm : Moment.ofText? s with
        | none =>
            exact .unfit rfl (by rintro ⟨_, _, ⟨⟩, h⟩; cases hm.symm.trans h) id
        | some m => exact .ok _ ⟨s, m, rfl, hm⟩ id
    | null | bool _ | int _ | real _ | date _ | list _ | record _ =>
        exact .unfit rfl (by rintro ⟨_, _, ⟨⟩, _⟩) id
  · have hfalse : v.isTruthy = false := by simpa using htruthy
    rw [if_pos (by simpa using htruthy)]
    exact .ok fallback (.inl hfalse) id

/-- What is read is a moment or the stand-in. -/
theorem momentIn_eq_ok {fields : List (String × Value)} {fallback v : Value}
    {name : String} (h : momentIn (.record fields) name fallback = .ok v) :
    v = fallback ∨ ∃ iso, v = .date iso := by
  change (if !((Value.lookup name fields).getD .null).isTruthy then
    pure fallback else _) = _ at h
  split at h
  · exact .inl (Except.ok.inj h).symm
  · split at h
    · split at h
      · exact .inr ⟨_, (Except.ok.inj h).symm⟩
      · cases h
    · cases h

theorem accepts_scanStatus_iff {fields : List (String × Value)}
    {status start finish : Value}
    (hstatus : Value.lookup "status" fields = some status)
    (hstart : ∃ iso, start = .date iso)
    (hfinish : finish = .null ∨ ∃ iso, finish = .date iso) (id : String) :
    Accepts scanStatus (.record
      [("scan_id", .text id), ("status", status),
       ("progress", (Value.lookup "progress" fields).getD (.int 0)),
       ("start_time", start), ("end_time", finish),
       ("message", (Value.lookup "name" fields).getD (.text ""))]) ↔
      Accepts progressColumns (.record fields) := by
  have hid : Accepts .text (.text id) := .text rfl
  have hzero : Accepts (.whole (some 0) (some 100)) (.int 0) :=
    (isOk_fit_iff _ _).1 rfl
  have hempty : Accepts .text (.text "") := .text rfl
  have hstart : Accepts .moment start := by
    obtain ⟨iso, rfl⟩ := hstart
    exact .moment rfl
  have hfinish : Accepts (.optional .moment) finish := by
    obtain rfl | ⟨iso, rfl⟩ := hfinish
    · exact .absent _
    · exact .present (.moment rfl)
  unfold scanStatus progressColumns
  simp only [accepts_record_iff, List.forall_mem_cons, List.not_mem_nil,
    false_implies, implies_true, and_true, takes_usually hzero,
    takes_usually hempty]
  constructor
  · rintro ⟨-, hstatus', hprogress, -, -, hname⟩
    exact ⟨hstatus ▸ hstatus', hprogress, hname⟩
  · rintro ⟨hstatus', hprogress, hname⟩
    rw [show (needed "status" Shape.text).1 = "status" from rfl,
      hstatus] at hstatus'
    exact ⟨hid, hstatus', hprogress, hstart, hfinish, hname⟩

theorem judged_storedStatus (w : World) (id : String)
    (fields : List (String × Value)) :
    Judged (StatusFits fields) (Value.lookup "status" fields = none)
      (storedStatus w id (.record fields)) := by
  have hsteps : storedStatus w id (.record fields)
    = ((Value.record fields).pick "status" >>= fun status =>
      momentIn (.record fields) "started_at" (.date w.now.iso) >>= fun start =>
        momentIn (.record fields) "completed_at" .null >>=
      fun finish => make scanStatus
        [("scan_id", .text id), ("status", status),
         ("progress", (Value.lookup "progress" fields).getD (.int 0)),
         ("start_time", start), ("end_time", finish),
         ("message", (Value.lookup "name" fields).getD (.text ""))]) := rfl
  rw [hsteps]
  refine ((judged_pick fields "status").bind fun status hstatus =>
    (judged_momentIn fields "started_at" _).bind fun start hstart =>
    (judged_momentIn fields "completed_at" _).bind fun finish hfinish =>
    (judged_make _ _).congr (accepts_scanStatus_iff (lookup_of_pick hstatus)
      ?_ (momentIn_eq_ok hfinish) id) Iff.rfl).congr ?_ ?_
  · exact (momentIn_eq_ok hstart).elim (fun h => ⟨_, h⟩) fun h => h
  · refine ⟨fun h => ⟨h.2.2.2, h.2.1, h.2.2.1⟩, fun h =>
      ⟨?_, h.started, h.completed, h.columns⟩⟩
    exact isSome_of_takes (accepts_record_iff.1 h.columns _ List.mem_cons_self)
  · simp

-- ============================================================== issues

/-- A severity that is one of the levels. -/
def NamesLevel (fields : List (String × Value)) : Prop :=
  ∃ level : Severity, Value.lookup "severity" fields = some (.text level.name)

/-- Standards that can be answered: those that are records have the fields of
one. -/
def StandardsFit (v : Value) : Prop :=
  ∃ items, v.each = .ok items ∧ ∀ x ∈ items, ∀ fs, x = .record fs →
    Accepts standard x

/-- A row that can be answered as an issue. -/
structure IssueFits (fields : List (String × Value)) : Prop where
  columns : Accepts (issue.without ["standards"]) (.record fields)
  standards : StandardsFit ((Value.lookup "standards" fields).getD (.list []))

/-- A row that lacks a column an issue needs. The last two are not looked for
where the severity is none of the levels. -/
def IssueLacks (fields : List (String × Value)) : Prop :=
  Value.lookup "rule_id" fields = none ∨ Value.lookup "severity" fields = none ∨
    NamesLevel fields ∧
      (Value.lookup "message" fields = none ∨
        Value.lookup "file_path" fields = none)

/-- A value that names a level is the word for it. -/
theorem eq_text_of_ofValue {kind : String} {v : Value} {level : Severity}
    (h : Severity.ofValue kind v = .ok level) : v = .text level.name := by
  unfold Severity.ofValue at h
  cases v with
  | text t =>
      cases hlevel : Severity.ofName? t with
      | none =>
          have hbind : (Value.text t).asText?.bind Severity.ofName?
              = none := hlevel
          rw [hbind] at h
          cases h
      | some found =>
          have hbind : (Value.text t).asText?.bind Severity.ofName?
              = some found := hlevel
          rw [hbind] at h
          obtain rfl := Except.ok.inj h
          have hsame : found.name = t := by simpa using List.find?_some hlevel
          rw [hsame]
  | null | bool _ | int _ | real _ | date _ | list _ | record _ => cases h

theorem judged_ofValue (kind : String) (v : Value) :
    Judged (∃ level : Severity, v
      = .text level.name) False (Severity.ofValue kind v) := by
  cases hlevel : Severity.ofValue kind v with
  | ok level => exact .ok level ⟨level, eq_text_of_ofValue hlevel⟩ id
  | error f =>
      refine .unfit ?_ ?_ id
      · unfold Severity.ofValue at hlevel
        split at hlevel
        · cases hlevel
        · obtain rfl := Except.error.inj hlevel
          rfl
      · rintro ⟨level, rfl⟩
        rw [Severity.ofValue_name] at hlevel
        cases hlevel

theorem namesLevel_of_takes {fields : List (String × Value)}
    (h : Takes (needed "severity" severity) (Value.lookup "severity" fields)) :
    NamesLevel fields := by
  unfold NamesLevel
  cases hlookup : Value.lookup "severity" fields with
  | none =>
      rw [hlookup] at h
      cases h
  | some v =>
      rw [hlookup] at h
      have hword : Accepts (.choice (Severity.all.map Severity.name)) v := h
      cases hword with
      | choice hmem =>
          obtain ⟨level, -, rfl⟩ := List.mem_map.1 hmem
          exact ⟨level, rfl⟩

theorem judged_storedStandard (v : Value) :
    Judged (∀ fs, v = .record fs →
      Accepts standard v) False (storedStandard v) := by
  cases v with
  | record fs =>
    exact (judged_make standard fs).congr ⟨fun h _ _ => h, fun h =>
      h fs rfl⟩ Iff.rfl
  | null | bool _ | int _ | real _ | text _ | date _ | list _ =>
      exact .ok _ nofun id

/-- What can be gone through item by item is, and anything else is unfit. -/
theorem judged_each (v : Value) :
    Judged (∃ items, v.each = .ok items) False v.each := by
  cases v with
  | list _ | text _ | record _ => exact .ok _ ⟨_, rfl⟩ id
  | null | bool _ | int _ | real _ | date _ =>
      exact .unfit rfl (by rintro ⟨_, ⟨⟩⟩) id

theorem judged_standards (v : Value) :
    Judged (StandardsFit v) False (v.each >>= fun items =>
      items.mapM storedStandard) := by
  have hitem (items : List Value) (hitems : v.each = .ok items) :
      Judged (StandardsFit v) False (items.mapM storedStandard) := by
    refine (judged_mapM judged_storedStandard items).congr ?_
      (firstLacks_false items)
    unfold StandardsFit
    rw [hitems]
    simp
  refine ((judged_each v).bind hitem).congr ?_ (by simp)
  exact ⟨fun h => h.2, fun h => ⟨h.imp fun _ hx => hx.1, h⟩⟩

/-- Answered standards have the shape of one. -/
theorem accepts_storedStandard {v v' : Value} (h : storedStandard v = .ok v') :
    Accepts standard v' := by
  unfold storedStandard at h
  split at h
  · exact accepts_of_make wellMade_standard h
  · exact accepts_of_make wellMade_standard h

/-- The columns of a row as entries of a message. -/
def issueEntries (fields : List (String × Value))
    (rule severity message file : Value) (standards : List Value) :
    List (String × Value) :=
  let get (name : String) (fallback : Value) :=
    (name, (Value.lookup name fields).getD fallback)
  [("rule_id", rule), ("severity", severity), ("message", message),
   ("file_path", file), get "line_number" .null, get "column_number" .null,
   get "code_snippet" .null, get "remediation" .null,
   get "category" (.text "general"), get "confidence" (.real 1),
   get "metadata" (.record []), ("standards", .list standards),
   get "compliance_frameworks" (.list [])]

theorem storedIssue_steps (fields : List (String × Value)) :
    storedIssue (.record fields)
      = ((Value.record fields).pick "rule_id" >>= fun rule =>
      (Value.record fields).pick "severity" >>= fun word =>
      Severity.ofValue "SeverityModel" word >>= fun level =>
      (Value.record fields).pick "message" >>= fun message =>
      (Value.record fields).pick "file_path" >>= fun file =>
      (((Value.lookup "standards" fields).getD (.list [])).each >>= fun items =>
        items.mapM storedStandard) >>= fun standards =>
      make issue
        (issueEntries fields rule (.text level.name) message file
          standards)) := by
  simp only [bind_assoc]
  rfl

/-- The columns of an issue are taken as its message if they are taken as
columns. -/
theorem accepts_issue_iff {fields : List (String × Value)}
    {rule severity message file : Value} {standards : List Value}
    (hrule : Value.lookup "rule_id" fields = some rule)
    (hseverity : Value.lookup "severity" fields = some severity)
    (hmessage : Value.lookup "message" fields = some message)
    (hfile : Value.lookup "file_path" fields = some file)
    (hstandards : ∀ v ∈ standards, Accepts standard v) :
    Accepts issue
      (.record (issueEntries fields rule severity message file standards)) ↔
      Accepts (issue.without ["standards"]) (.record fields) := by
  have hlist : Accepts (.list standard) (.list standards) := .list hstandards
  have hnoData : Accepts (.table .anything) (.record []) :=
    (isOk_fit_iff _ _).1 rfl
  have hnoNames : Accepts (.list .text) (.list []) := (isOk_fit_iff _ _).1 rfl
  unfold issue
  refine accepts_filled_iff ?_ ?_
  · intro f hf hname
    obtain rfl : f = usually "standards" (.list standard) (.list []) :=
      List.inj_on_of_nodup_map (by decide) hf (by simp)
        (List.mem_singleton.1 hname)
    exact hlist
  · simp only [List.forall_mem_cons]
    exact ⟨fun _ => .inl hrule.symm, fun _ => .inl hseverity.symm, fun _ =>
      .inl hmessage.symm, fun _ => .inl hfile.symm, fun _ => filled_maybe _,
      fun _ => filled_maybe _, fun _ => filled_maybe _, fun _ => filled_maybe _,
      fun _ => filled_usually (.text rfl) _, fun _ =>
        filled_usually (.real 1) _, fun _ => filled_usually hnoData _,
      fun h => absurd List.mem_cons_self h, fun _ =>
        filled_usually hnoNames _, nofun⟩

theorem judged_storedIssue (fields : List (String × Value)) :
    Judged (IssueFits fields) (IssueLacks fields)
      (storedIssue (.record fields)) := by
  rw [storedIssue_steps]
  have hmade {rule word message file : Value} {level : Severity}
    {standards : List Value}
      (hrule : (Value.record fields).pick "rule_id" = .ok rule)
      (hword : (Value.record fields).pick "severity" = .ok word)
      (hlevel : Severity.ofValue "SeverityModel" word = .ok level)
      (hmessage : (Value.record fields).pick "message" = .ok message)
      (hfile : (Value.record fields).pick "file_path" = .ok file)
      (hstandards :
        (((Value.lookup "standards" fields).getD (.list [])).each >>=
          fun items =>
        items.mapM storedStandard) = .ok standards) :
      Judged (Accepts (issue.without ["standards"]) (.record fields)) False
        (make issue
          (issueEntries fields rule (.text level.name) message file
            standards)) := by
    obtain ⟨items, -, hitems⟩ := Outcome.bind_eq_ok hstandards
    have hstandards (v : Value) (hv : v ∈ standards) : Accepts standard v := by
      obtain ⟨x, -, hx⟩ := Outcome.exists_of_mem_mapM hitems hv
      exact accepts_storedStandard hx
    have hseverity : Value.lookup "severity" fields
        = some (.text level.name) := by
      rw [lookup_of_pick hword, eq_text_of_ofValue hlevel]
    exact (judged_make _ _).congr
      (accepts_issue_iff (lookup_of_pick hrule) hseverity
        (lookup_of_pick hmessage) (lookup_of_pick hfile) hstandards) Iff.rfl
  have hnamed {word : Value} (hword : (Value.record fields).pick "severity"
    = .ok word) :
      Judged (NamesLevel fields) False
        (Severity.ofValue "SeverityModel" word) := by
    refine (judged_ofValue _ _).congr ?_ Iff.rfl
    unfold NamesLevel
    rw [lookup_of_pick hword]
    simp only [Option.some.injEq]
  refine ((judged_pick fields "rule_id").bind fun rule hrule =>
    (judged_pick fields "severity").bind fun word hword =>
    (hnamed hword).bind fun level hlevel =>
    (judged_pick fields "message").bind fun message hmessage =>
    (judged_pick fields "file_path").bind fun file hfile =>
    (judged_standards _).bind fun standards hstandards =>
    hmade hrule hword hlevel hmessage hfile hstandards).congr ?_ ?_
  · refine ⟨fun ⟨_, _, _, _, _, hstandards, hcolumns⟩ => ⟨hcolumns, hstandards⟩,
      fun h => ?_⟩
    have hrule :=
      takes_of_without (f := needed "rule_id" .text) h.columns (by simp)
          (by decide)
    have hlevel :=
      takes_of_without (f := needed "severity" severity) h.columns (by simp)
        (by decide)
    have hmessage :=
      takes_of_without (f := needed "message" .text) h.columns (by simp)
          (by decide)
    have hfile :=
      takes_of_without (f := needed "file_path" .text) h.columns (by simp)
          (by decide)
    exact ⟨isSome_of_takes hrule, isSome_of_takes hlevel,
      namesLevel_of_takes hlevel, isSome_of_takes hmessage,
      isSome_of_takes hfile, h.standards, h.columns⟩
  · unfold IssueLacks
    cases Value.lookup "rule_id" fields <;>
      cases Value.lookup "severity" fields <;>
      cases Value.lookup "message" fields <;>
        cases Value.lookup "file_path" fields <;> simp

-- ============================================================= results

/-- A row whose columns can be answered with its results. -/
def ResultsFit (fields : List (String × Value)) : Prop :=
  Accepts (scanResults.without ["scan_id", "issues", "errors"]) (.record fields)

/-- An answered issue has the shape of one. -/
theorem accepts_storedIssue {fields : List (String × Value)} {v : Value}
    (h : storedIssue (.record fields) = .ok v) : Accepts issue v := by
  rw [storedIssue_steps] at h
  obtain ⟨rule, -, h⟩ := Outcome.bind_eq_ok h
  obtain ⟨word, -, h⟩ := Outcome.bind_eq_ok h
  obtain ⟨level, -, h⟩ := Outcome.bind_eq_ok h
  obtain ⟨message, -, h⟩ := Outcome.bind_eq_ok h
  obtain ⟨file, -, h⟩ := Outcome.bind_eq_ok h
  obtain ⟨standards, -, h⟩ := Outcome.bind_eq_ok h
  exact accepts_of_make wellMade_issue h

/-- Nothing is no summary. -/
theorem not_accepts_noSummary : ¬Accepts scanSummary (.record []) := fun h =>
  Bool.false_ne_true ((isOk_fit_iff _ _).2 h)

theorem judged_storedAnswer (id : String) (fields : List (String × Value))
    {issues : List Value} (hissues : ∀ v ∈ issues, Accepts issue v) :
    Judged (ResultsFit fields) False
      (storedAnswer id (.record fields) issues) := by
  have hanswer : storedAnswer id (.record fields) issues = make scanResults
      [("scan_id", .text id),
       ("summary", (Value.lookup "summary" fields).getD (.record [])),
       ("issues", .list issues), ("errors", .record []),
       ("detected_frameworks",
         (Value.lookup "detected_frameworks" fields).getD (.record [])),
         ("compliance_summary",
           (Value.lookup "compliance_summary" fields).getD (.record []))] := rfl
  have hid : Accepts .text (.text id) := .text rfl
  have hlist : Accepts (.list issue) (.list issues) := .list hissues
  have hnone (s : Shape) : Accepts (.table s) (.record []) :=
    (isOk_fit_iff _ _).1 rfl
  rw [hanswer]
  refine (judged_make _ _).congr ?_ Iff.rfl
  unfold ResultsFit scanResults
  refine accepts_filled_iff ?_ ?_
  · simp only [List.forall_mem_cons]
    exact ⟨fun _ => hid, fun h => absurd h (by decide), fun _ => hlist,
      fun _ => hnone _, fun h => absurd h (by decide), fun h =>
        absurd h (by decide), nofun⟩
  · simp only [List.forall_mem_cons]
    exact ⟨fun h => absurd (by decide) h,
      fun _ =>
        .inr ⟨.record [], rfl,
          iff_of_false not_accepts_noSummary Bool.false_ne_true⟩,
      fun h => absurd (by decide) h, fun h => absurd (by decide) h,
      fun _ => filled_usually (hnone _) _, fun _ =>
        filled_usually (hnone _) _, nofun⟩

/-- The results of a scan are answered just if all its rows fit. -/
theorem judged_storedResults (id : String) (fields : List (String × Value))
    (rows : List (List (String × Value))) :
    Judged ((∀ row ∈ rows, IssueFits row) ∧ ResultsFit fields)
      (FirstLacks IssueFits IssueLacks rows)
      (storedResults id
        (.record [("scan", .record fields),
          ("issues", .list (rows.map Value.record))])) := by
  rw [storedResults_rows, List.mapM_map]
  refine ((judged_mapM judged_storedIssue rows).bind fun issues hissues =>
    judged_storedAnswer id fields fun v hv => ?_).congr Iff.rfl (by simp)
  obtain ⟨row, -, hrow⟩ := Outcome.exists_of_mem_mapM hissues hv
  exact accepts_storedIssue hrow

-- ============================================================ requests

/-- An outcome that is no refusal. -/
def Unrefused {α : Type} (r : Outcome α) : Prop :=
  ∀ status why, r ≠ .error (.refused status why)

section Unrefused

variable {α β : Type} {r : Outcome α}

theorem Unrefused.bind {k : α → Outcome β} (hr : Unrefused r)
    (hk : ∀ a, Unrefused (k a)) : Unrefused (r >>= k) := by
  intro status why h
  cases r with
  | error f => exact hr status why (congrArg Except.error (Except.error.inj h))
  | ok a => exact hk a status why h

theorem unrefused_mapM {step : α → Outcome β} (h : ∀ x, Unrefused (step x))
    (xs : List α) : Unrefused (xs.mapM step) := by
  induction xs with
  | nil => exact nofun
  | cons x rest ih =>
      rw [List.mapM_cons]
      exact (h x).bind fun _ => ih.bind fun _ => nofun

theorem unrefused_of_judged {fits lacks : Prop} (h : Judged fits lacks r) :
    Unrefused r := by
  rintro status why rfl
  cases h with
  | unfit hf _ _ => cases hf

theorem unrefused_make (s : Shape) (entries : List (String × Value)) :
    Unrefused (make s entries) :=
  unrefused_of_judged (judged_make s entries)

/-- A finding that cannot become a message is no refusal. -/
theorem unrefused_ofFinding (columns : Bool) (f : Finding) :
    Unrefused (ofFinding columns f) := by
  refine (unrefused_mapM (fun s => unrefused_make _ _) _).bind
    fun standards => ?_
  cases columns with
  | false => exact nofun
  | true => exact unrefused_make _ _

end Unrefused

/-- A request is answered that there is no such scan. -/
def NotFound (request : Handler Value) (d : Desk) : Prop :=
  (request.run.run d).1 = .error (.refused 404 "Scan not found")

/-- What cannot be refused is found. -/
theorem not_notFound_ofOutcome {r : Outcome Value} (h : Unrefused r)
    (d : Desk) : ¬NotFound (ofOutcome r) d := by
  unfold NotFound
  rw [run_ofOutcome]
  exact h _ _

/-- In memory, asking how far a scan is does not find it just if it is not
there. -/
theorem notFound_sessionStatus (id : String) (d : Desk) :
    NotFound (asked id >>= sessionStatus id) d ↔ d.sessions.get? id = none := by
  unfold NotFound
  rw [run_bind, run_asked]
  cases d.sessions.get? id with
  | none => exact iff_of_true rfl rfl
  | some s =>
      exact iff_of_false (not_notFound_ofOutcome (unrefused_make _ _) d)
        (Option.some_ne_none s)

theorem not_notFound_resultsMessage (w : World) (id : String) (r : ScanResult)
    (errors frameworks : List (String × Value)) (d : Desk) :
    ¬NotFound (resultsMessage w id r errors frameworks) d := by
  rw [resultsMessage_eq]
  refine not_notFound_ofOutcome ?_ d
  unfold resultsOutcome
  cases w.totals with
  | none => exact nofun
  | some summary =>
      exact (unrefused_mapM (unrefused_ofFinding w.full) _).bind fun _ =>
        unrefused_make _ _

/-- So does asking for its results. -/
theorem notFound_resultsMessage (w : World) (id : String)
    (frameworks : ScanResult → List (String × Value)) (d : Desk) :
    NotFound (askedResult id >>= fun r =>
      resultsMessage w id r [] (frameworks r)) d ↔
      d.sessions.get? id = none := by
  unfold NotFound
  rw [run_bind, run_askedResult]
  cases d.sessions.get? id with
  | none => exact iff_of_true rfl rfl
  | some s =>
      refine iff_of_false ?_ (Option.some_ne_none s)
      dsimp only
      by_cases h : (s.status != "completed") = true
      · rw [if_pos h]
        exact nofun
      · rw [if_neg h]
        cases s.result with
        | none => exact nofun
        | some r => exact not_notFound_resultsMessage w id r [] (frameworks r) d

/-- A store that knows a scan of a user, and hands out its row and those of its
issues. -/
structure KnowsScan (id : String) (user : Option User) (d : Desk)
    (fields : List (String × Value)) (rows : List (List (String × Value))) :
    Prop where
  number : ∃ n, Text.numeral? id = some n
  owner : ∃ owner, User.id user = .ok owner ∧ owner.isTruthy = true
  replies : ∃ others error₁ user₁ error₂ user₂ rest, d.ledger.replies =
    .answers (.list (.record fields :: others)) error₁ user₁ ::
      .answers (.list (rows.map Value.record)) error₂ user₂ :: rest

section Requests

variable {id : String} {user : Option User} {d : Desk}
    {fields : List (String × Value)}
  {rows : List (List (String × Value))}

theorem KnowsScan.run_storedScan (h : KnowsScan id user d fields rows) :
    ∃ l, (storedScan id user).run.run d = (.ok (some
      (.record [("scan", .record fields),
        ("issues", .list (rows.map Value.record))])),
      { d with ledger := l }) := by
  obtain ⟨n, hn⟩ := h.number
  obtain ⟨owner, howner, htruthy⟩ := h.owner
  obtain ⟨others, error₁, user₁, error₂, user₂, rest, hreplies⟩ := h.replies
  have hpresent : User.isPresent user = true := by
    cases user with
    | none => cases howner
    | some u =>
        obtain ⟨columns, isRecord⟩ := u
        cases isRecord with
        | true => cases howner
        | false => rfl
  have hnumber : numberOf id = .ok n := by rw [numberOf, hn]
  have hfound : (ofAction (Service.scanResults (.int n) owner)).run.run d = _ :=
    run_ofAction _ _
  rw [run_scanResults hreplies] at hfound
  unfold storedScan
  rw [run_bind, run_ofOutcome, hnumber]
  dsimp only
  rw [if_pos hpresent, run_bind, run_ofOutcome, howner]
  dsimp only
  rw [if_neg (by simpa using htruthy)]
  rw [run_bind, hfound]
  exact ⟨_, rfl⟩

/-- The answer made of what the store knows, or another. -/
def fromStore (id : String) (user : Option User)
    (answer : Value → Outcome Value) (otherwise : Handler Value) :
    Handler Value := do
  let kept ← unlessUnfit (do
    match ← storedScan id user with
    | none => return none
    | some found => some <$> ofOutcome (answer found))
  match kept with
  | some v => return v
  | none => otherwise

theorem status_eq {w : World} (h : w.stored = true) :
    status w id user
      = fromStore id user (fun found => found.pick "scan" >>= storedStatus w id)
      (asked id >>= sessionStatus id) := by
  unfold status
  rw [if_pos h]
  rfl

theorem results_eq {w : World} (h : w.stored = true) :
    results w id user = fromStore id user (storedResults id)
      (askedResult id >>= fun r =>
      resultsMessage w id r []
        (r.frameworks.map fun (name, _) => (name, unshaped))) := by
  unfold results
  rw [if_pos h]
  rfl

/-- What is unfit comes to nothing, and any other failure stays one. -/
theorem run_unlessUnfit {α : Type} (a : Handler (Option α)) (d : Desk) :
    (unlessUnfit a).run.run d
      = match a.run.run d with
        | (.ok x, d') => (.ok x, d')
        | (.error f, d') => (if f.isUnfit then .ok none else .error f, d') := by
  unfold unlessUnfit
  rw [run_tryCatch]
  cases a.run.run d with
  | mk r d' =>
      cases r with
      | ok x => rfl
      | error f =>
          dsimp only
          by_cases hf : f.isUnfit = true
          · rw [if_pos hf, if_pos hf]
            rfl
          · rw [if_neg hf, if_neg hf]
            rfl

/-- What the store knows is not found just if it is unfit and memory does not
have it either. -/
theorem notFound_fromStore (h : KnowsScan id user d fields rows)
    {answer : Value → Outcome Value} {otherwise : Handler Value}
    {fits lacks : Prop} (hanswer : Judged fits lacks (answer
      (.record [("scan", .record fields),
        ("issues", .list (rows.map Value.record))])))
    (hmemory : ∀ d' : Desk, d'.sessions = d.sessions →
      (NotFound otherwise d' ↔ d.sessions.get? id = none)) :
    NotFound (fromStore id user answer otherwise) d ↔
      d.sessions.get? id = none ∧ ¬lacks ∧ ¬fits := by
  obtain ⟨l, hrun⟩ := h.run_storedScan
  have hkept : (do
      match ← storedScan id user with
      | none => return none
      | some found =>
          some <$> ofOutcome (answer found) : Handler (Option Value)).run.run d
        = ((answer (.record [("scan", .record fields),
            ("issues", .list (rows.map Value.record))])).map some,
            { d with ledger := l }) := by
    rw [run_bind, hrun]
    dsimp only
    cases answer _ <;> rfl
  unfold NotFound fromStore
  rw [run_bind, run_unlessUnfit, hkept]
  generalize answer (.record [("scan", .record fields),
    ("issues", .list (rows.map Value.record))])
    = r at hanswer
  cases hanswer with
  | ok v hfits _ => exact iff_of_false nofun fun h => h.2.2 hfits
  | lacking name _ hlacks => exact iff_of_false nofun fun h => h.2.1 hlacks
  | unfit hf hfits hlacks =>
      dsimp only [Except.map]
      rw [if_pos hf]
      exact (hmemory { d with ledger := l } rfl).trans ⟨fun h =>
        ⟨h, hlacks, hfits⟩, fun h => h.1⟩

/-- Asked how far it is, a scan the store knows is not found just if its row has
a status but does not fit, and memory does not have it either. -/
theorem notFound_status_iff {w : World} (hstored : w.stored = true)
    (h : KnowsScan id user d fields rows) :
    NotFound (status w id user) d ↔
      d.sessions.get? id = none ∧ (Value.lookup "status" fields).isSome = true ∧
        ¬StatusFits fields := by
  rw [status_eq hstored, notFound_fromStore h (judged_storedStatus w id fields)
    fun d' hd' => by
    rw [notFound_sessionStatus, hd'], ← Option.ne_none_iff_isSome]

/-- Asked for its results, it is not found just if its rows do not all fit, the
first that does not lacks no column, and memory does not have it either. -/
theorem notFound_results_iff {w : World} (hstored : w.stored = true)
    (h : KnowsScan id user d fields rows) :
    NotFound (results w id user) d ↔
      d.sessions.get? id = none ∧ ¬FirstLacks IssueFits IssueLacks rows ∧
        ¬((∀ row ∈ rows, IssueFits row) ∧ ResultsFit fields) := by
  rw [results_eq hstored,
    notFound_fromStore h (judged_storedResults id fields rows) fun d' hd' => by
      rw [notFound_resultsMessage, hd']]

/-- A row without a summary does not fit, whether there is none, or nothing or
nothing much stands in its place. -/
theorem not_resultsFit (h : ∀ s, Value.lookup "summary" fields = some s →
    s = .null ∨ s = .record []) : ¬ResultsFit fields := by
  intro hfit
  have htakes :
      Takes (needed "summary" scanSummary) (Value.lookup "summary" fields) :=
    takes_of_without hfit (by simp) (by decide)
  cases hlookup : Value.lookup "summary" fields with
  | none =>
      rw [hlookup] at htakes
      cases htakes
  | some s =>
      rw [hlookup] at htakes
      obtain rfl | rfl := h s hlookup
      · exact Bool.false_ne_true ((isOk_fit_iff scanSummary .null).2 htakes)
      · exact not_accepts_noSummary htakes

/-- A scan the store knows is reported missing just if memory does not have it
and its rows are unfit: for its status, its own row; for its results, that row
or those of its issues. A scan without a summary, as any that has not ended, is
always reported missing when its results are asked for. -/
theorem reported_missing_iff {w : World} (hstored : w.stored = true)
    (h : KnowsScan id user d fields rows) :
    (NotFound (status w id user) d ↔
      d.sessions.get? id = none ∧ (Value.lookup "status" fields).isSome = true ∧
        ¬StatusFits fields) ∧
    (NotFound (results w id user) d ↔
      d.sessions.get? id = none ∧ ¬FirstLacks IssueFits IssueLacks rows ∧
        ¬((∀ row ∈ rows, IssueFits row) ∧ ResultsFit fields)) ∧
    (d.sessions.get? id = none → (∀ row ∈ rows, IssueFits row) →
      (∀ s, Value.lookup "summary" fields = some s → s = .null ∨
        s = .record []) →
      NotFound (results w id user) d) := by
  refine ⟨notFound_status_iff hstored h, notFound_results_iff hstored h, ?_⟩
  intro hmemory hrows hsummary
  exact (notFound_results_iff hstored h).2 ⟨hmemory,
    (judged_mapM judged_storedIssue rows).not_lacks hrows,
    fun hfit => not_resultsFit hsummary hfit.2⟩

/-- A desk whose store knows a scan without issues. -/
def knowingDesk (fields : List (String × Value)) : Desk :=
  Desk.ofReplies [.answers (.list [.record fields]) .null .null,
    .answers (.list []) .null .null]

/-- The one who asked for the scan. -/
def scanOwner : Option User := some ⟨[("id", .text "u1")], false⟩

theorem knowsScan_knowingDesk (fields : List (String × Value)) :
    KnowsScan "7" scanOwner (knowingDesk fields) fields [] :=
  ⟨⟨7, by decide⟩, ⟨.text "u1", rfl, rfl⟩, ⟨[], _, _, _, _, _, rfl⟩⟩

/-- The row of a scan that is running. -/
def runningScan : List (String × Value) :=
  [("id", .int 7), ("user_id", .text "u1"), ("name", .text "Scan"),
   ("status", .text "running"), ("started_at", .text "2024-01-02T03:04:05"),
   ("summary", .null)]

theorem statusFits_runningScan : StatusFits runningScan where
  columns := (isOk_fit_iff _ _).1 rfl
  started := .inr ⟨_, "2024-01-02T03:04:05", rfl, by decide +kernel⟩
  completed := .inl rfl

/-- Asked how far it is, a scan that is running is found; asked for its results,
it is not. -/
theorem reported_missing_iff_running :
    KnowsScan "7" scanOwner (knowingDesk runningScan) runningScan [] ∧
      ¬NotFound (status keptWorld "7" scanOwner) (knowingDesk runningScan) ∧
      NotFound (results keptWorld "7" scanOwner) (knowingDesk runningScan) := by
  have hknows := knowsScan_knowingDesk runningScan
  obtain ⟨hstatus, -, hresults⟩ :=
    reported_missing_iff (w := keptWorld) rfl hknows
  refine ⟨hknows, fun h => (hstatus.1 h).2.2 statusFits_runningScan,
    hresults rfl nofun ?_⟩
  rintro s hs
  exact .inl (Option.some.inj hs).symm

/-- A scan that is running is there, and its results are answered with a report
that it is missing; so is the status of a scan without a name. -/
theorem known_scan_reported_missing :
    (KnowsScan "7" scanOwner (knowingDesk runningScan) runningScan [] ∧
      NotFound (results keptWorld "7" scanOwner) (knowingDesk runningScan)) ∧
    KnowsScan "7" scanOwner (knowingDesk [("status", .text "running"),
      ("name", .null)])
        [("status", .text "running"), ("name", .null)] [] ∧
      NotFound (status keptWorld "7" scanOwner)
        (knowingDesk [("status", .text "running"), ("name", .null)]) := by
  have hrunning := knowsScan_knowingDesk runningScan
  have hnameless :=
    knowsScan_knowingDesk [("status", .text "running"), ("name", .null)]
  have hsummary : ¬ResultsFit runningScan :=
    not_resultsFit fun s hs => .inl (Option.some.inj hs).symm
  refine ⟨⟨hrunning, (notFound_results_iff rfl hrunning).2 ⟨rfl, id, fun h =>
    hsummary h.2⟩⟩, hnameless, (notFound_status_iff rfl hnameless).2 ⟨rfl, rfl,
    fun h => ?_⟩⟩
  exact Bool.false_ne_true ((isOk_fit_iff _ _).2 h.columns)

end Requests

end AccountService

end SourceAudit
