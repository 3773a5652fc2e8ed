/-
Which uploads begin a scan.

Where the id of a scan comes from, where its state is kept and who asked for it
are chosen by an upload on different grounds: the id comes from the store if
there is a store and a user, the state goes to the store if there is a store,
and the user has members if there is a store and is a bare record if there is
none. Once the files are saved, the owner or the number of the scan is not to be
had and nothing is begun (`run_proceed_error`), or the scan waits
(`run_proceed_ok`). Put together, a scan is begun just if store and user come
together (`upload_begins_iff`).
-/
import SourceAudit.Proofs.Service.Completion
import SourceAudit.Proofs.Service.Uploads
import SourceAudit.Proofs.Text.Numerals

namespace SourceAudit

open Handler Store

-- ============================================================ requests

namespace Handler

/-- The answer that a scan has been started. -/
def startedReply (id : String) : Value :=
  .record [("scan_id", .text id), ("status", .text "started"),
    ("message", .text "Scan initiated successfully")]

theorem run_begun (id : String) (d : Desk) :
    (begun id).run.run d = (.ok (startedReply id), d) := by
  have hmade : Schema.make Schema.scanResponse
      [("scan_id", .text id), ("status", .text "started"),
        ("message", .text "Scan initiated successfully")]
          = .ok (startedReply id) := by
    unfold Schema.make Schema.scanResponse
    rw [Schema.fit_fields]
    simp only [Schema.fitFields, Schema.needed, Value.lookup, String.reduceBEq,
      Bool.false_eq_true, if_true, if_false, Schema.fit_text, Schema.within_ok,
      Schema.both]
    rfl
  unfold begun
  rw [run_ofOutcome, hmade]

/-- A request begins a scan: it is answered that one has been started, and one
more scan waits, the one of the answer. -/
def Begins (request : Handler Value) (d : Desk) : Prop :=
  ∃ id task d', request.run.run d = (.ok (startedReply id), d') ∧
    d'.tasks = d.tasks ++ [task] ∧ task.id = id

/-- A request is turned down: no scan waits that did not wait before, and no
session is made. -/
def TurnsDown (request : Handler Value) (d : Desk) (why : String) : Prop :=
  ∃ d', request.run.run d = (.error (.refused 500 why), d') ∧
    d'.tasks = d.tasks ∧
    d'.sessions = d.sessions

theorem TurnsDown.not_begins {request : Handler Value} {d : Desk} {why : String}
    (h : TurnsDown request d why) : ¬Begins request d := by
  rintro ⟨id, task, d', hrun, -⟩
  obtain ⟨d'', hrefused, -⟩ := h
  rw [hrun] at hrefused
  cases (Prod.mk.inj hrefused).1

/-- Saves the files of an upload in a folder that is made for them. -/
def saveAll (folder : String) (files : List (String × List UInt8)) :
    Handler Unit := do
  makeFolder folder
  files.forM (saveFile folder)

/-- Files that can be written to a folder. -/
def CanSave (folder : String) (files : List (String × List UInt8))
    (d : Desk) : Prop :=
  ((saveAll folder files).run.run d).1.isOk = true

/-- How work ends, and the tree it leaves, are determined by the tree it
finds. -/
def TreeOnly {α : Type} (h : Handler α) : Prop :=
  ∀ d d' : Desk, d'.tree = d.tree →
    (h.run.run d').1 = (h.run.run d).1 ∧
      (h.run.run d').2.tree = (h.run.run d).2.tree

theorem TreeOnly.bind {α β : Type} {h : Handler α} {k : α → Handler β}
    (hh : TreeOnly h) (hk : ∀ a, TreeOnly (k a)) : TreeOnly (h >>= k) := by
  intro d d' htree
  obtain ⟨hend, hleft⟩ := hh d d' htree
  rw [run_bind, run_bind]
  cases hrun : h.run.run d with
  | mk r d₁ =>
      cases hrun' : h.run.run d' with
      | mk r' d₁' =>
          rw [hrun, hrun'] at hend hleft
          obtain rfl : r' = r := hend
          cases r' with
          | error f => exact ⟨rfl, hleft⟩
          | ok a => exact hk a d₁ d₁' hleft

theorem treeOnly_makeFolder (path : String) : TreeOnly (makeFolder path) := by
  intro d d' htree
  rw [run_makeFolder, run_makeFolder, htree]
  exact ⟨rfl, rfl⟩

theorem treeOnly_write (path : String) (bytes : List UInt8) :
    TreeOnly (write path bytes) := by
  intro d d' htree
  rw [run_write, run_write, htree]
  cases d.tree.write path bytes with
  | ok tree => exact ⟨rfl, rfl⟩
  | error f => exact ⟨rfl, htree⟩

theorem treeOnly_saveFile (folder : String) (file : String × List UInt8) :
    TreeOnly (saveFile folder file) :=
  (treeOnly_makeFolder _).bind fun _ => treeOnly_write _ _

theorem treeOnly_saveAll (folder : String)
    (files : List (String × List UInt8)) : TreeOnly (saveAll folder files) := by
  refine (treeOnly_makeFolder folder).bind fun _ => ?_
  induction files with
  | nil => exact fun d d' htree => ⟨rfl, htree⟩
  | cons file rest ih => exact (treeOnly_saveFile folder file).bind fun _ => ih

theorem CanSave.of_tree {folder : String} {files : List (String × List UInt8)}
    {d d' : Desk} (h : CanSave folder files d) (htree : d'.tree = d.tree) :
    CanSave folder files d' :=
  (congrArg Except.isOk (treeOnly_saveAll folder files d d' htree).1).trans h

/-- Saving files leaves sessions and waiting scans alone. -/
theorem keeps_saveAll (folder : String) (files : List (String × List UInt8)) :
    Keeps (saveAll folder files) :=
  (keeps_makeFolder folder).bind fun _ =>
    keeps_forM (keeps_saveFile folder) files

end Handler

namespace UploadRequest

variable {w : World} {u : UploadRequest} {files : List (String × List UInt8)}
    {id : String}
  {d d₀ : Desk}

/-- Once its files are saved, what comes of an upload is what comes of going on
with it; a failure there is a refusal. -/
theorem run_handle (hid : (u.takeId w).run.run d = (.ok id, d₀))
    (hsave : CanSave (folderOf id) files d₀) :
    ∃ d₁ : Desk, d₁.sessions = d₀.sessions ∧ d₁.tasks = d₀.tasks ∧
      (u.handle w files).run.run d
        = match (u.proceed w id).run.run d₁ with
          | (.ok v, d₂) => (.ok v, d₂)
          | (.error f, d₂) =>
            (.error (.refused 500 f.message),
              { d₂ with tree := d₂.tree.remove (folderOf id) }) := by
  obtain ⟨hsessions, htasks, -⟩ := keeps_saveAll (folderOf id) files d₀
  obtain ⟨⟨⟩, d₁, hrun⟩ := exists_of_isOk hsave
  rw [hrun] at hsessions htasks
  obtain ⟨⟨⟩, d', hfolder, hfiles⟩ := bind_eq_ok hrun
  refine ⟨d₁, hsessions, htasks, ?_⟩
  rw [handle_eq, run_bind, hid]
  dsimp only
  rw [run_bind, hfolder]
  dsimp only
  rw [run_tryCatch, run_bind, hfiles]
  dsimp only
  cases (u.proceed w id).run.run d₁ with
  | mk r d₂ => cases r <;> rfl

end UploadRequest

namespace AccountService

-- =============================================================== users

/-- The one behind a token as an upload gets to know them: the store hands out
users with members, and the stand-in is a bare record. -/
def userFrom (w : World) : Value → Option User
  | .record fields => some ⟨fields, !w.stored⟩
  | _ => none

/-- An upload by the one behind a token. -/
def uploadBy (w : World) (token : Option String)
    (files : List (String × List UInt8)) (config : Option String) :
    Handler Value := do
  let user ← userOf w token
  upload w files config (userFrom w user)

/-- A store that knows the user of a token and enters a new scan under an id. -/
def ServesUpload (given : Value) (replies : List Reply) : Prop :=
  ∃ (fields row : List (String × Value)) (owner : Value) (others : List Value)
      (data error error' user' : Value) (rest : List Reply),
    replies = .answers data error (.record fields) ::
      .answers (.list (.record row :: others)) error' user' :: rest ∧
    Value.lookup "id" fields = some owner ∧ Value.lookup "id" row = some given ∧
    given.isTruthy = true

-- ================================================================= ids

/-- A store that enters a scan gives its id. -/
theorem run_createScan {l : Ledger} {row : List (String × Value)}
    {others : List Value} {error user' given : Value}
    (hnext : l.next = .answers (.list (.record row :: others)) error user')
    (hid : Value.lookup "id" row = some given) (now : Moment)
    (user name config : Value) :
    ∃ l', (Service.createScan now user name config).run.run l
      = (.ok given, l') := by
  unfold Service.createScan
  rw [Action.run_orElse, run_bind, Action.run_rows, hnext]
  have hpick : (Value.record row).pick "id" = .ok given := by
    simp only [Value.pick, hid]
  have hany : (Value.list (.record row :: others)).isTruthy = true := rfl
  dsimp only [Reply.rows]
  rw [if_pos hany, Action.run_ofOutcome]
  simp only [first, bind, Except.bind, hpick]
  exact ⟨_, rfl⟩

/-- The settings of an upload are JSON, where there are any. -/
def ReadableConfig (config : Option String) : Prop :=
  ∀ text, config = some text → text ≠ "" → ∃ v, Value.ofJson text = .ok v

/-- The id the store gives is the id of the scan. -/
theorem run_storedId {w : World} {user : Option User} {owner given : Value}
    {config : Option String} {d : Desk} {row : List (String × Value)}
    {others : List Value} {error user' : Value}
    (howner : User.id user = .ok owner) (hconfig : ReadableConfig config)
    (hnext : d.ledger.next
      = .answers (.list (.record row :: others)) error user')
    (hid : Value.lookup "id" row = some given)
    (hgiven : given.isTruthy = true) :
    ∃ l', (storedId w user (config.filter fun text => !text.isEmpty)).run.run d
      = (.ok given.shown, { d with ledger := l' }) := by
  have hlast (settings : Value) : ∃ l', (do
      let id ← ofAction (Service.createScan w.now owner
        (.text ("Scan " ++ w.now.minuteText)) settings)
      if id.isTruthy then return id.shown
      else refuse 500 "Failed to create scan in database" :
        Handler String).run.run d
        = (.ok given.shown, { d with ledger := l' }) := by
    obtain ⟨l', hrun⟩ := run_createScan hnext hid w.now owner
      (.text ("Scan " ++ w.now.minuteText)) settings
    refine ⟨l', ?_⟩
    rw [run_bind, run_ofAction, hrun]
    dsimp only
    rw [if_pos hgiven]
    rfl
  unfold storedId
  rw [howner]
  cases hkept : config.filter fun text => !text.isEmpty with
  | none => exact hlast (.record [])
  | some text =>
      obtain ⟨hsome, hany⟩ := Option.filter_eq_some_iff.1 hkept
      obtain ⟨settings, hread⟩ := hconfig text hsome (by simpa using hany)
      simp only [hread]
      exact hlast settings

-- ========================================================== proceeding

/-- The owner of a scan: the user, if there is one. -/
def ownerOf (user : Option User) : Outcome Value :=
  if User.isPresent user then User.id user else .ok (.text "anonymous")

theorem proceed_eq (w : World) (id : String) (config : Option String)
    (user : Option User) :
    (UploadRequest.account config user).proceed w id = (do
      let owner ← ofOutcome (ownerOf user)
      if w.stored then mark w (← ofOutcome (numberOf id)) "running"
      else enter id (.started w.now (folderOf id) (some owner))
      modify fun d =>
        { d with tasks := d.tasks ++ [⟨id, folderOf id, .usual, user⟩] }
      begun id) := by
  dsimp only [UploadRequest.proceed]
  unfold ownerOf
  cases User.isPresent user <;> rfl

/-- What it takes to go on with an upload: an owner, and with a store a
number. -/
def readiness (w : World) (id : String) (user : Option User) : Outcome Unit :=
  match ownerOf user with
  | .error f => .error f
  | .ok _ => if w.stored then (numberOf id).map fun _ => () else .ok ()

/-- Once its files are saved, an upload that is not ready fails and changes
nothing. -/
theorem run_proceed_error {w : World} {id : String} {user : Option User}
    {f : Fault} (h : readiness w id user = .error f) (config : Option String)
    (d : Desk) :
    ((UploadRequest.account config user).proceed w id).run.run d
      = (.error f, d) := by
  rw [proceed_eq, run_bind, run_ofOutcome]
  unfold readiness at h
  cases howner : ownerOf user with
  | error g =>
      rw [howner] at h
      rw [Except.error.inj h]
  | ok owner =>
      simp only [howner] at h
      split at h
      · rename_i hstored
        cases hnumber : numberOf id with
        | ok n =>
            rw [hnumber] at h
            cases h
        | error g =>
            rw [hnumber] at h
            obtain rfl : g = f := Except.error.inj h
            simp only [hstored, if_true]
            rw [run_bind, run_ofOutcome]
      · cases h

/-- One that is ready has its scan wait. -/
theorem run_proceed_ok {w : World} {id : String} {user : Option User}
    (h : readiness w id user = .ok ()) (config : Option String) (d : Desk) :
    ∃ d', ((UploadRequest.account config user).proceed w id).run.run d
        = (.ok (startedReply id), d') ∧
      d'.tasks = d.tasks ++ [⟨id, folderOf id, .usual, user⟩] := by
  have hlast (d : Desk) : ∃ d', (do
      modify fun d =>
        { d with tasks := d.tasks ++ [⟨id, folderOf id, .usual, user⟩] }
      begun id : Handler Value).run.run d = (.ok (startedReply id), d') ∧
        d'.tasks = d.tasks ++ [⟨id, folderOf id, .usual, user⟩] := by
    refine ⟨{ d with tasks := d.tasks ++ [⟨id, folderOf id, .usual, user⟩] },
      ?_, rfl⟩
    rw [run_bind]
    exact run_begun id _
  rw [proceed_eq, run_bind, run_ofOutcome]
  unfold readiness at h
  cases howner : ownerOf user with
  | error g =>
      rw [howner] at h
      cases h
  | ok owner =>
      simp only [howner] at h
      dsimp only
      split at h
      · rename_i hstored
        cases hnumber : numberOf id with
        | error g =>
            rw [hnumber] at h
            cases h
        | ok n =>
            simp only [hstored, if_true]
            rw [run_bind, run_ofOutcome]
            dsimp only
            rw [run_bind, run_mark (by decide)]
            exact hlast
              { d with ledger := d.ledger.after (markCall w n "running") }
      · rename_i hstored
        simp only [hstored]
        exact hlast
          { d with
            sessions :=
              d.sessions.put id (.started w.now (folderOf id) (some owner)) }

-- ============================================================ outcomes

/-- The same files, sessions and waiting scans on two desks. -/
structure SameBooks (d d' : Desk) : Prop where
  tree : d'.tree = d.tree
  tasks : d'.tasks = d.tasks
  sessions : d'.sessions = d.sessions

section Outcomes

variable {w : World} {files : List (String × List UInt8)}
    {config : Option String}
  {user : Option User} {id : String} {d d₀ : Desk}

/-- An upload that has its id and whose files can be saved begins its scan if it
is ready, and is turned down if it is not. -/
theorem upload_outcome
    (hid : ((UploadRequest.account config user).takeId w).run.run d
      = (.ok id, d₀))
    (hsame : SameBooks d d₀) (hsave : CanSave (folderOf id) files d) :
    match readiness w id user with
    | .ok _ => Begins (upload w files config user) d
    | .error f => TurnsDown (upload w files config user) d f.message := by
  obtain ⟨d₁, hsessions, htasks, hrun⟩ :=
    UploadRequest.run_handle hid (hsave.of_tree hsame.tree)
  have hupload : (upload w files config user).run.run d = _ := hrun
  cases hready : readiness w id user with
  | error f =>
      rw [run_proceed_error hready] at hupload
      exact ⟨_, hupload, htasks.trans hsame.tasks,
        hsessions.trans hsame.sessions⟩
  | ok _ =>
      obtain ⟨d₂, hproceed, hadded⟩ := run_proceed_ok hready config d₁
      rw [hproceed] at hupload
      rw [htasks, hsame.tasks] at hadded
      exact ⟨id, _, d₂, hupload, hadded, rfl⟩

/-- The id that is given out where no store is asked for one. -/
theorem takeId_new (h : (w.stored && User.isPresent user) = false)
    (config : Option String) (d : Desk) :
    ((UploadRequest.account config user).takeId w).run.run d
      = (.ok ("scan-" ++ toString (d.given + 1)),
        { d with given := d.given + 1 }) := by
  dsimp only [UploadRequest.takeId]
  rw [h, if_neg Bool.false_ne_true]
  rfl

/-- Such an id is no number. -/
theorem numberOf_scan (n : Nat) :
    numberOf ("scan-" ++ toString n)
      = .error (.badNumeral ("scan-" ++ toString n)) := by
  have hnone : Text.numeral? ("scan-" ++ toString n) = none :=
    Text.numeral?_eq_none (by rw [String.toList_append]; rfl) (by decide)
      (by decide) (by decide)
      (by decide)
  rw [numberOf, hnone]

/-- The one behind a token is asked for before anything else is done. -/
theorem uploadBy_outcome {token : Option String} {v : Value}
    (huser : (userOf w token).run.run d = (.ok v, d₀)) (hsame : SameBooks d d₀)
    (files : List (String × List UInt8)) (config : Option String)
    (why : String) :
    (Begins (upload w files config (userFrom w v)) d₀ →
      Begins (uploadBy w token files config) d) ∧
    (TurnsDown (upload w files config (userFrom w v)) d₀ why →
      TurnsDown (uploadBy w token files config) d why) := by
  have hrun : (uploadBy w token files config).run.run d
      = (upload w files config (userFrom w v)).run.run d₀ := by
    unfold uploadBy
    rw [run_bind, huser]
  constructor
  · rintro ⟨id, task, d', hbegins, htasks, hid⟩
    exact ⟨id, task, d', hrun.trans hbegins,
      htasks.trans (by rw [hsame.tasks]), hid⟩
  · rintro ⟨d', hrefused, htasks, hsessions⟩
    exact ⟨d', hrun.trans hrefused, htasks.trans hsame.tasks,
      hsessions.trans hsame.sessions⟩

/-- The store knows the user of a token. -/
theorem run_userOf_stored {fields : List (String × Value)}
    {owner data error : Value} (hstored : w.stored = true)
    (hnext : d.ledger.next = .answers data error (.record fields))
    (howner : Value.lookup "id" fields = some owner) (token : String) :
    (userOf w (some token)).run.run d
      = (.ok (.record fields),
        { d with ledger := d.ledger.after (.user (.text token)) }) := by
  have hany : (Value.record fields).isTruthy = true := by
    cases fields with
    | nil => cases howner
    | cons field rest => rfl
  unfold userOf
  simp only [hstored, Bool.not_true, Bool.false_eq_true, if_false]
  rw [run_tryCatch, run_bind, run_ofAction, Action.run_userOf, hnext]
  dsimp only [Reply.user]
  rw [if_pos hany]
  rfl

end Outcomes

-- =============================================================== modes

section Modes

variable {w : World} {files : List (String × List UInt8)}
    {config : Option String}
  {given : Value} {d : Desk}

/-- The id a scan gets: the one the store gives, or the next one of the desk. -/
def uploadId (w : World) (token : Option String) (given : Value)
    (d : Desk) : String :=
  if w.stored && token.isSome then given.shown else "scan-" ++
    toString (d.given + 1)

/-- Where no token comes, whoever asks is not asked for. -/
theorem run_userOf_none (w : World) (d : Desk) :
    (userOf w none).run.run d = (.ok .null, d) := rfl

/-- Without a store and without a token the scan is begun. -/
theorem begins_unnamed (hstored : w.stored = false) (config : Option String)
    (hsave : CanSave (folderOf ("scan-" ++ toString (d.given + 1))) files d) :
    Begins (uploadBy w none files config) d := by
  have hnew : (w.stored && User.isPresent none) = false := by rw [hstored]; rfl
  have hready : readiness w ("scan-" ++ toString (d.given + 1)) none
      = .ok () := by
    unfold readiness
    rw [hstored]
    rfl
  have hupload :=
    upload_outcome (takeId_new hnew config d) ⟨rfl, rfl, rfl⟩ hsave
  rw [hready] at hupload
  exact (uploadBy_outcome (run_userOf_none w d) ⟨rfl, rfl,
    rfl⟩ files config "").1 hupload

/-- With a store and without a token the id is no number of the store. -/
theorem turnsDown_unnamed (hstored : w.stored = true) (config : Option String)
    (hsave : CanSave (folderOf ("scan-" ++ toString (d.given + 1))) files d) :
    TurnsDown (uploadBy w none files config) d
      (Fault.badNumeral ("scan-" ++ toString (d.given + 1))).message := by
  have hnew : (w.stored && User.isPresent none) = false := by rw [hstored]; rfl
  have hready : readiness w ("scan-" ++ toString (d.given + 1)) none
      = .error (.badNumeral ("scan-" ++ toString (d.given + 1))) := by
    unfold readiness
    rw [hstored, numberOf_scan]
    rfl
  have hupload :=
    upload_outcome (takeId_new hnew config d) ⟨rfl, rfl, rfl⟩ hsave
  rw [hready] at hupload
  exact (uploadBy_outcome (run_userOf_none w d) ⟨rfl, rfl,
    rfl⟩ files config _).2 hupload

/-- The one behind any token where there is no store. -/
def standInFields : List (String × Value) :=
  [("id", .text "anonymous"), ("email", .text "anonymous@example.com")]

/-- Without a store the one behind a token is a bare record, which has no id. -/
theorem turnsDown_standIn (hstored : w.stored = false) (config : Option String)
    (token : String)
    (hsave : CanSave (folderOf ("scan-" ++ toString (d.given + 1))) files d) :
    TurnsDown (uploadBy w (some token) files config) d
      (Fault.noMember "dict" "id").message := by
  have huser : (userOf w (some token)).run.run d
      = (.ok (.record standInFields), d) := by
    unfold userOf
    rw [hstored]
    rfl
  have hfrom : userFrom w (.record standInFields)
      = some ⟨standInFields, true⟩ := by
    unfold userFrom
    rw [hstored]
    rfl
  have hnew : (w.stored && User.isPresent (some ⟨standInFields, true⟩))
      = false := by
    rw [hstored]
    rfl
  have hupload :=
    upload_outcome (takeId_new hnew config d) ⟨rfl, rfl, rfl⟩ hsave
  have houtcome := (uploadBy_outcome huser ⟨rfl, rfl, rfl⟩ files config
    (Fault.noMember "dict" "id").message).2
  rw [hfrom] at houtcome
  exact houtcome hupload

/-- With a store that knows the user and enters the scan, all turns on whether
the id it gives is a number. -/
theorem served_outcome (hstored : w.stored = true)
    (hconfig : ReadableConfig config)
    (hserves : ServesUpload given d.ledger.replies) (token : String)
    (hsave : CanSave (folderOf given.shown) files d) :
    match Text.numeral? given.shown with
    | some _ => Begins (uploadBy w (some token) files config) d
    | none => TurnsDown (uploadBy w (some token) files config) d
        (Fault.badNumeral given.shown).message := by
  obtain ⟨fields, row, owner, others, data, error, error', user', rest,
    hreplies, howner, hid, hgiven⟩ := hserves
  have huser :=
    run_userOf_stored hstored (d := d) (by rw [Ledger.next, hreplies]; rfl)
      howner token
  have hfrom : userFrom w (.record fields) = some ⟨fields, false⟩ := by
    unfold userFrom
    rw [hstored]
    rfl
  have hownerOf : User.id (some ⟨fields, false⟩) = .ok owner := by
    simp only [User.id, howner, Bool.false_eq_true, if_false]
  have hnext : (d.ledger.after (.user (.text token))).next
      = .answers (.list (.record row :: others)) error' user' := by
    rw [Ledger.next, Ledger.after, hreplies]
    rfl
  obtain ⟨l', htaken⟩ := run_storedId (w := w)
    (d := { d with ledger := d.ledger.after (.user (.text token)) })
    hownerOf hconfig hnext hid hgiven
  have htakes :
    ((UploadRequest.account config (some ⟨fields, false⟩)).takeId w).run.run
      { d with ledger := d.ledger.after (.user (.text token)) }
        = (.ok given.shown, { d with ledger := l' }) := by
    dsimp only [UploadRequest.takeId]
    rw [hstored]
    exact htaken
  have hupload := upload_outcome htakes ⟨rfl, rfl, rfl⟩ (hsave.of_tree rfl)
  have houtcome := uploadBy_outcome huser ⟨rfl, rfl, rfl⟩ files config
    (Fault.badNumeral given.shown).message
  have hready : readiness w given.shown (some ⟨fields, false⟩)
      = (numberOf given.shown).map fun _ => () := by
    unfold readiness ownerOf
    rw [hstored, hownerOf]
    rfl
  rw [hfrom] at houtcome
  rw [hready, numberOf] at hupload
  cases hnumeral : Text.numeral? given.shown with
  | none =>
      rw [hnumeral] at hupload
      exact houtcome.2 hupload
  | some n =>
      rw [hnumeral] at hupload
      exact houtcome.1 hupload

/-- Where the files can be saved, the settings are in order and the store, if
there is one, answers, a scan is begun just if a token comes with a store and
none without, and the id the store gives is a number, as an integer always is.
With a store and no token it is turned down for its id, without a store and with
a token for its user. -/
theorem upload_begins_iff (token : Option String)
    (hconfig : ReadableConfig config)
    (hserves : w.stored = true → token.isSome = true →
      ServesUpload given d.ledger.replies)
    (hsave : CanSave (folderOf (uploadId w token given d)) files d) :
    (Begins (uploadBy w token files config) d ↔
      w.stored = token.isSome ∧
        (w.stored = true → (Text.numeral? given.shown).isSome = true)) ∧
    (∀ n, given = .int n → w.stored = token.isSome →
      Begins (uploadBy w token files config) d) ∧
    (w.stored = true → token = none →
      TurnsDown (uploadBy w token files config) d
        (Fault.badNumeral ("scan-" ++ toString (d.given + 1))).message) ∧
    (w.stored = false → token.isSome = true →
      TurnsDown (uploadBy w token files config) d
        (Fault.noMember "dict" "id").message) := by
  unfold uploadId at hsave
  cases hstored : w.stored <;> cases token <;> rw [hstored] at hsave hserves
  · have hbegins := begins_unnamed hstored config hsave
    exact ⟨iff_of_true hbegins ⟨rfl, by simp⟩, fun _ _ _ =>
      hbegins, by simp, by simp⟩
  · rename_i token
    have hturned := turnsDown_standIn hstored config token hsave
    exact ⟨iff_of_false hturned.not_begins (by simp), by simp, by simp,
      fun _ _ => hturned⟩
  · have hturned := turnsDown_unnamed hstored config hsave
    exact ⟨iff_of_false hturned.not_begins (by simp), by simp, fun _ _ =>
      hturned, by simp⟩
  · rename_i token
    have hserved := served_outcome hstored hconfig (hserves rfl rfl) token hsave
    have hinteger (n : Int) (hn : given = .int n) : Text.numeral? given.shown
        = some n := by
      rw [hn]
      exact Text.numeral?_toString n
    cases hnumeral : Text.numeral? given.shown with
    | none =>
        rw [hnumeral] at hserved
        refine ⟨iff_of_false hserved.not_begins (by simp), fun n hn =>
          ?_, by simp, by simp⟩
        cases hnumeral.symm.trans (hinteger n hn)
    | some n =>
        rw [hnumeral] at hserved
        exact ⟨iff_of_true hserved ⟨rfl, fun _ => rfl⟩, fun _ _ _ =>
          hserved, by simp, by simp⟩

/-- A store that knows one user and enters a scan under the number 7. -/
def scanStore : List Reply :=
  [.answers .null .null (.record [("id", .text "u1")]),
    .answers (.list [.record [("id", .int 7)]]) .null .null]

/-- One file. -/
def oneFile : List (String × List UInt8) := [("a.py", [120])]

/-- With that store, a token and settings the scan of one file is begun. -/
theorem upload_begins_iff_numbered :
    ReadableConfig (some "\x7b\x7d") ∧
      ServesUpload (.int 7) (Desk.ofReplies scanStore).ledger.replies ∧
      CanSave (folderOf "7") oneFile (Desk.ofReplies scanStore) ∧
      Begins (uploadBy keptWorld (some "token") oneFile (some "\x7b\x7d"))
        (Desk.ofReplies scanStore) := by
  have hconfig : ReadableConfig (some "\x7b\x7d") := by
    rintro text ⟨⟩ -
    exact ⟨.record [], by cbv⟩
  have hserves :
      ServesUpload (.int 7) (Desk.ofReplies scanStore).ledger.replies :=
    ⟨_, _, _, _, _, _, _, _, _, rfl, rfl, rfl, rfl⟩
  have hsave : CanSave (folderOf "7") oneFile (Desk.ofReplies scanStore) := by
    unfold CanSave
    decide +kernel
  exact ⟨hconfig, hserves, hsave,
    (upload_begins_iff (w := keptWorld) (some "token") hconfig (fun _ _ =>
      hserves) hsave).2.1 7 rfl rfl⟩

/-- One file can be saved and yet no scan is begun, neither with a token where
there is no store nor without one where there is. -/
theorem upload_not_begun_in_mixed_modes :
    (CanSave (folderOf ("scan-" ++ toString 1)) oneFile (Desk.ofReplies []) ∧
      ¬Begins (uploadBy UploadRequest.storeless (some "token") oneFile none)
        (Desk.ofReplies [])) ∧
    CanSave (folderOf ("scan-" ++ toString 1)) oneFile
      (Desk.ofReplies scanStore) ∧
      ¬Begins (uploadBy keptWorld none oneFile none)
        (Desk.ofReplies scanStore) := by
  have hsave :
      CanSave (folderOf ("scan-" ++ toString 1)) oneFile
        (Desk.ofReplies []) := by
    unfold CanSave
    decide +kernel
  have hsave' :
      CanSave (folderOf ("scan-" ++ toString 1)) oneFile
        (Desk.ofReplies scanStore) :=
    hsave.of_tree rfl
  have hstandIn :=
    turnsDown_standIn (w := UploadRequest.storeless) (d := Desk.ofReplies [])
      rfl none "token" hsave
  have hunnamed :=
    turnsDown_unnamed (w := keptWorld) (d := Desk.ofReplies scanStore) rfl none
      hsave'
  exact ⟨⟨hsave, hstandIn.not_begins⟩, hsave', hunnamed.not_begins⟩

end Modes

end AccountService

end SourceAudit
