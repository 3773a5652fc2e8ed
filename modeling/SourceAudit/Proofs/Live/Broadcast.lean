/-
A message to the followers of a scan, sent without a pause: whom it is sent to,
and who still follows afterwards.

A message walks down the list by places. As long as nobody else is heard, the
list is the same at every step, so the walk meets each place once and in order
(`proceedAll_walking`); only after the last place are the clients taken off that
could not be reached. That gives the message as one equation (`broadcast_eq`),
from which the rest follows by counting: a client is taken off as often as
sending to it failed, so it stays as often as sending to it succeeded
(`diff_lost_perm`).
-/
import SourceAudit.Proofs.Live.Following
import Mathlib.Data.List.Count

namespace SourceAudit

-- ============================================================ sendings

/-- The attempts at clients in a row, the first of which has the number
`number`. -/
def attemptsFrom (arrives : Nat → String → Bool) (text : String) :
    Nat → List String → List Sending
  | _, [] => []
  | number, client :: rest =>
    ⟨client, text, arrives number client⟩ ::
      attemptsFrom arrives text (number + 1) rest

/-- There is one attempt at each client, in order. -/
theorem attemptsFrom_clients (arrives : Nat → String → Bool) (text : String)
    (clients : List String) :
    ∀ number, (attemptsFrom arrives text number clients).map Sending.client
      = clients := by
  induction clients with
  | nil => intro number; rfl
  | cons client rest ih =>
      intro number
      rw [attemptsFrom, List.map_cons, ih]

/-- All attempts are made with the same text. -/
theorem attemptsFrom_text (arrives : Nat → String → Bool) (text : String)
    (clients : List String) :
    ∀ number, ∀ s ∈ attemptsFrom arrives text number clients, s.text
      = text := by
  induction clients with
  | nil => intro number s hs; exact absurd hs List.not_mem_nil
  | cons client rest ih =>
      intro number s hs
      rcases List.mem_cons.1 hs with rfl | hs
      · rfl
      · exact ih _ s hs

/-- The clients that attempts did not reach. -/
def lostIn (sendings : List Sending) : List String :=
  (sendings.filter fun s => !s.arrived).map Sending.client

/-- The clients that attempts reached. -/
def reachedIn (sendings : List Sending) : List String :=
  (sendings.filter Sending.arrived).map Sending.client

/-- Each attempt either reaches its client or loses it. -/
theorem count_reached_add_lost (sendings : List Sending) (client : String) :
    (reachedIn sendings).count client + (lostIn sendings).count client
      = (sendings.map Sending.client).count client := by
  unfold reachedIn lostIn
  induction sendings with
  | nil => rfl
  | cons s rest ih =>
      rw [List.map_cons, List.count_cons, ← ih]
      cases ha : s.arrived with
      | true =>
          rw [List.filter_cons_of_pos ha,
            List.filter_cons_of_neg (by rw [ha]; decide), List.map_cons,
            List.count_cons]
          omega
      | false =>
          rw [List.filter_cons_of_neg (by rw [ha]; decide),
            List.filter_cons_of_pos (by rw [ha]; rfl), List.map_cons,
            List.count_cons]
          omega

/-- Taking off the lost clients once for each failure leaves the others once for
each success. -/
theorem diff_lost_perm (sendings : List Sending) :
    ((sendings.map Sending.client).diff (lostIn sendings)).Perm
      (reachedIn sendings) := by
  rw [List.perm_iff_count]
  intro client
  have hcount := count_reached_add_lost sendings client
  rw [List.count_diff]
  omega

namespace Live

/-- Attempts that reached their clients are written down. -/
def noteAll (l : Live) (sendings : List Sending) : Live :=
  sendings.foldl (fun l s => if s.arrived then
    l.record s.client s.text else l) l

/-- Writing attempts down changes no list. -/
theorem noteAll_followings (l : Live) (sendings : List Sending) :
    (l.noteAll sendings).followings = l.followings
      ∧ (l.noteAll sendings).lists = l.lists := by
  unfold noteAll
  induction sendings generalizing l with
  | nil => exact ⟨rfl, rfl⟩
  | cons s rest ih =>
      rw [List.foldl_cons]
      cases s.arrived with
      | true => exact ih (l.record s.client s.text)
      | false => exact ih l

/-- Writing attempts down leaves the followers as they are. -/
theorem following?_noteAll (l : Live) (sendings : List Sending)
    (scan : String) :
    (l.noteAll sendings).following? scan = l.following? scan := by
  unfold following?
  rw [(noteAll_followings l sendings).1]

/-- Writing attempts down keeps the followers sound. -/
theorem Sound.noteAll {l : Live} (h : l.Sound) (sendings : List Sending) :
    (l.noteAll sendings).Sound := by
  obtain ⟨hf, hl⟩ := noteAll_followings l sendings
  refine ⟨?_, ?_, ?_⟩
  · rw [hf]; exact h.distinct
  · rw [hf]; exact h.peopled
  · rw [hf, hl]; exact h.numbered

-- ============================================================ the walk

/-- The client at a place of the list that a scan has. -/
theorem clientAt?_of_following {l : Live} {scan : String} {f : Following}
    (h : l.following? scan = some f) (place : Nat) :
    l.clientAt? scan f.serial place = f.clients[place]? := by
  unfold clientAt?
  rw [h, Option.bind_some, if_pos (beq_self_eq_true _)]

/-- One step of a message: the attempt under way is written down; then the
client at the next place is turned to, or those who were lost are taken off. -/
theorem proceed_some {l : Live} {b : Broadcast} {client : String}
    (hcur : b.current = some client) (arrived : Bool) :
    l.proceed b arrived
      = match l.clientAt? b.scan b.serial b.reached with
        | some next => (l.noteAll [⟨client, b.text, arrived⟩],
            { b with
              reached := b.reached + 1
              current := some next
              tried := ⟨client, b.text, arrived⟩ :: b.tried })
        | none => ((l.noteAll [⟨client, b.text, arrived⟩]).drop b.scan
              (lostIn (⟨client, b.text, arrived⟩ :: b.tried).reverse),
            { b with current := none, tried :=
              ⟨client, b.text, arrived⟩ :: b.tried }) := by
  unfold proceed
  rw [hcur]
  cases arrived <;> rfl

/-- The message that has met the clients of `done`, and is sending to the client
at the place after them, if there is one. -/
def walking (f : Following) (text : String) (done : List Sending) : Broadcast :=
  ⟨f.scan, f.serial, text, done.length + 1, f.clients[done.length]?,
    done.reverse⟩

/-- The message that has met all clients. -/
def walked (f : Following) (text : String) (done : List Sending) : Broadcast :=
  ⟨f.scan, f.serial, text, done.length, none, done.reverse⟩

theorem walking_current {f : Following} {client : String} {todo : List String}
    {done : List Sending}
    (hclients : f.clients = done.map Sending.client ++ client :: todo)
    (text : String) : (walking f text done).current = some client := by
  show f.clients[done.length]? = some client
  rw [hclients, List.getElem?_append_right (Nat.le_of_eq (List.length_map _)),
    List.length_map, Nat.sub_self]
  rfl

/-- The client a walk comes to next. -/
theorem clientAt?_walking {l : Live} {f : Following}
    (hf : l.following? f.scan = some f) {client : String} {todo : List String}
    {done : List Sending}
    (hclients : f.clients = done.map Sending.client ++ client :: todo) :
    l.clientAt? f.scan f.serial (done.length + 1) = todo.head? := by
  rw [clientAt?_of_following hf, hclients,
    List.getElem?_append_right (by rw [List.length_map]; exact Nat.le_succ _),
    List.length_map, Nat.add_sub_cancel_left, List.getElem?_cons_succ,
    List.head?_eq_getElem?]

/-- A step of the walk that comes to a next client. -/
theorem proceed_walking_next {l : Live} {f : Following}
    (hf : l.following? f.scan = some f) {client next : String}
    {todo : List String} {done : List Sending}
    (hclients : f.clients = done.map Sending.client ++ client :: next :: todo)
    (text : String) (arrived : Bool) :
    l.proceed (walking f text done) arrived
      = (l.noteAll [⟨client, text, arrived⟩],
        walking f text (done ++ [⟨client, text, arrived⟩])) := by
  have hnext := clientAt?_walking hf hclients
  rw [List.head?_cons] at hnext
  have hsame : walking f text (done ++ [⟨client, text, arrived⟩])
      = ⟨f.scan, f.serial, text, done.length + 1 + 1, some next,
        ⟨client, text, arrived⟩ :: done.reverse⟩ := by
    have hat := clientAt?_of_following hf (done.length + 1)
    unfold walking
    rw [List.length_append, List.length_singleton, ← hat, hnext,
      List.reverse_append]
    rfl
  rw [proceed_some (walking_current hclients text), hsame]
  show (match l.clientAt? f.scan f.serial (done.length + 1) with
    | some next => _
    | none => _) = _
  rw [hnext]
  rfl

/-- The last step of the walk takes those off who were lost. -/
theorem proceed_walking_last {l : Live} {f : Following}
    (hf : l.following? f.scan = some f) {client : String} {done : List Sending}
    (hclients : f.clients = done.map Sending.client ++ [client])
    (text : String) (arrived : Bool) :
    l.proceed (walking f text done) arrived
      = ((l.noteAll [⟨client, text, arrived⟩]).drop f.scan
          (lostIn (done ++ [⟨client, text, arrived⟩])),
        walked f text (done ++ [⟨client, text, arrived⟩])) := by
  have hnext := clientAt?_walking hf hclients
  rw [List.head?_nil] at hnext
  have hback : (⟨client, text, arrived⟩ :: done.reverse).reverse
      = done ++ [(⟨client, text, arrived⟩ : Sending)] := by
    rw [List.reverse_cons, List.reverse_reverse]
  have hsame : walked f text (done ++ [⟨client, text, arrived⟩])
      = ⟨f.scan, f.serial, text, done.length + 1, none,
        ⟨client, text, arrived⟩ :: done.reverse⟩ := by
    unfold walked
    rw [List.length_append, List.length_singleton, ← hback,
      List.reverse_reverse]
  rw [proceed_some (walking_current hclients text), hsame, ← hback]
  show (match l.clientAt? f.scan f.serial (done.length + 1) with
    | some next => _
    | none => _) = _
  rw [hnext]
  rfl

/-- The walk from one client to the end, `done` being met before: all clients
left are met in order, then the lost ones are taken off. -/
theorem proceedAll_walking (arrives : Nat → String → Bool) (text : String)
    {f : Following} :
    ∀ (todo : List String) (client : String) (done : List Sending) (l : Live),
      l.following? f.scan = some f →
      f.clients = done.map Sending.client ++ client :: todo →
      proceedAll arrives (todo.length + 1) (l, walking f text done)
        = ((l.noteAll
          (attemptsFrom arrives text (done.length + 1) (client :: todo))).drop
            f.scan
              (lostIn (done ++
                attemptsFrom arrives text (done.length + 1) (client :: todo))),
          walked f text
            (done ++
              attemptsFrom arrives text (done.length + 1)
                (client :: todo))) := by
  intro todo
  -- on the clients after the one being sent to; the list itself never changes
  induction todo with
  | nil =>
      intro client done l hf hclients
      unfold proceedAll
      simp only [walking_current hclients text]
      exact proceed_walking_last hf hclients text _
  | cons next todo ih =>
      intro client done l hf hclients
      unfold proceedAll
      simp only [walking_current hclients text]
      rw [proceed_walking_next hf hclients text]
      obtain ⟨s, hs⟩ : ∃ s : Sending, s
          = ⟨client, text, arrives (done.length + 1) client⟩ :=
        ⟨_, rfl⟩
      have hmet : f.clients = (done ++ [s]).map Sending.client ++
          next :: todo := by
        rw [hclients, List.map_append, List.append_assoc, hs]
        rfl
      have hkept : (l.noteAll [s]).following? f.scan = some f := by
        rw [following?_noteAll, hf]
      show proceedAll arrives (todo.length + 1)
        (l.noteAll [⟨client, text, arrives (done.length + 1) client⟩],
          walking f text (done ++
            [⟨client, text, arrives (done.length + 1) client⟩])) = _
      rw [← hs, ih next _ _ hkept hmet, List.length_append,
        List.length_singleton, List.append_assoc, hs]
      rfl

/-- A message sent without a pause: one attempt at each follower, in order; then
those who were lost are taken off. -/
theorem broadcast_eq {l : Live} (h : l.Sound) (arrives : Nat → String → Bool)
    (scan text : String) :
    l.broadcast arrives scan text
      = ((l.noteAll (attemptsFrom arrives text 1 (l.of scan))).drop scan
          (lostIn (attemptsFrom arrives text 1 (l.of scan))),
        attemptsFrom arrives text 1 (l.of scan)) := by
  unfold broadcast announce
  cases hf : l.following? scan with
  | none =>
      have hof : l.of scan = [] := by
        unfold of
        rw [hf]
        rfl
      rw [hof]
      rfl
  | some f =>
      obtain ⟨-, rfl⟩ := following?_some hf
      obtain ⟨client, todo, hclients⟩ :=
        List.exists_cons_of_ne_nil (h.clients_ne_nil hf)
      have hall := proceedAll_walking arrives text todo client [] l hf hclients
      rw [Option.map_some]
      show (let r :=
          proceedAll arrives (l.of f.scan).length (l, walking f text [])
        (r.1, r.2.tried.reverse)) = _
      rw [of_of_following hf, hclients, List.length_cons, hall]
      show (_, (List.reverse _).reverse) = _
      rw [List.reverse_reverse]
      rfl

end Live

end SourceAudit
