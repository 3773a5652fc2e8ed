/-
Requests to the live updates, one after another: clients come and go, and news
of scans are sent to those who follow them.

Whatever the requests were, the followers are sound (`Live.sound_afterAll`), and
from a sound state each further request does what it should: a client whose line
cannot be opened changes nothing, and news are tried once on every follower of
their scan and leave exactly those on its list who were reached.
-/
import SourceAudit.Proofs.Live.Broadcast

namespace SourceAudit

-- ========================================================== vocabulary

/-- What the followers of a scan are told. -/
inductive News where
  | update (status progress message : Value)
  | issue (found : Value)

/-- News of a scan as a message. -/
def News.text (now : Moment) (scan : String) : News → String
  | .update status progress message =>
    Live.updateMessage now (.text scan) status progress message
  | .issue found => Live.issueMessage now scan found

/-- A request to the live updates. Whether a line can be opened and whether a
message arrives is up to the outside: `arrives` tells it of each attempt by its
number and its client. -/
inductive Request where
  | connect (client scan : String) (refusal : Option Fault)
  | disconnect (client scan : String)
  | send (now : Moment) (scan : String) (news : News) (arrives : Nat →
      String → Bool)

namespace Live

/-- What a request does, and the attempts to send something in it. -/
def perform (l : Live) : Request → Live × List Sending
  | .connect client scan refusal =>
    (((greet refusal client scan).run.run l).2, [])
  | .disconnect client scan => (l.disconnect client scan, [])
  | .send now scan news arrives => l.broadcast arrives scan (news.text now scan)

/-- The live updates after requests, from the start. -/
def afterAll (requests : List Request) : Live :=
  requests.foldl (fun l r => (l.perform r).1) .empty

-- ============================================================ requests

/-- News of a scan keep the followers sound. -/
theorem Sound.broadcast {l : Live} (h : l.Sound) (arrives : Nat → String → Bool)
    (scan text : String) : (l.broadcast arrives scan text).1.Sound := by
  rw [broadcast_eq h]
  exact (h.noteAll _).drop scan _

/-- A request keeps the followers sound. -/
theorem Sound.perform {l : Live} (h : l.Sound) (r : Request) :
    (l.perform r).1.Sound := by
  cases r with
  | connect client scan refusal =>
      cases refusal with
      | none => exact h.connect client scan
      | some fault => exact h
  | disconnect client scan => exact h.disconnect client scan
  | send now scan news arrives => exact h.broadcast arrives scan _

/-- After any requests the followers are sound. -/
theorem sound_afterAll (requests : List Request) :
    (afterAll requests).Sound := by
  unfold afterAll
  suffices hall : ∀ l : Live, l.Sound →
      (requests.foldl (fun l r => (l.perform r).1) l).Sound from hall _
        sound_empty
  induction requests with
  | nil => exact fun l h => h
  | cons r rest ih => exact fun l h => ih _ (h.perform r)

/-- The followers of a scan after news of it: those who were reached. -/
theorem of_broadcast_perm {l : Live} (h : l.Sound)
    (arrives : Nat → String → Bool) (scan text : String) :
    ((l.broadcast arrives scan text).1.of scan).Perm
      (reachedIn (l.broadcast arrives scan text).2) := by
  rw [broadcast_eq h]
  dsimp only
  rw [of_drop (h.noteAll _)]
  have hof : (l.noteAll (attemptsFrom arrives text 1 (l.of scan))).of scan
      = l.of scan := by
    unfold of
    rw [following?_noteAll]
  have hdiff := diff_lost_perm (attemptsFrom arrives text 1 (l.of scan))
  rw [attemptsFrom_clients] at hdiff
  rw [hof]
  exact hdiff

/-- Nobody is on the list of a scan after news of it, and the list is gone,
exactly when no attempt arrived. -/
theorem following?_broadcast_eq_none_iff {l : Live} (h : l.Sound)
    (arrives : Nat → String → Bool) (scan text : String) :
    (l.broadcast arrives scan text).1.following? scan = none
      ↔ ∀ s ∈ (l.broadcast arrives scan text).2, s.arrived = false := by
  have hperm := of_broadcast_perm h arrives scan text
  rw [(h.broadcast arrives scan text).following?_eq_none_iff]
  constructor
  · intro hnobody s hs
    rw [hnobody] at hperm
    have hnone := hperm.nil_eq
    cases harrived : s.arrived with
    | false => rfl
    | true =>
        have hreached : s.client
            ∈ reachedIn (l.broadcast arrives scan text).2 :=
          List.mem_map.2 ⟨s, List.mem_filter.2 ⟨hs, harrived⟩, rfl⟩
        rw [← hnone] at hreached
        exact absurd hreached List.not_mem_nil
  · intro hlost
    have hnone : reachedIn (l.broadcast arrives scan text).2 = [] := by
      unfold reachedIn
      rw [List.filter_eq_nil_iff.2
        fun s hs => by rw [hlost s hs]; exact Bool.false_ne_true]
      rfl
    rw [hnone] at hperm
    exact hperm.eq_nil

/-- News of a scan leave the followers of the others alone. -/
theorem following?_broadcast_of_ne {l : Live} (h : l.Sound)
    (arrives : Nat → String → Bool) {scan other : String}
    (hother : other ≠ scan) (text : String) :
    (l.broadcast arrives scan text).1.following? other
      = l.following? other := by
  rw [broadcast_eq h]
  dsimp only
  rw [following?_drop_of_ne (h.noteAll _) hother, following?_noteAll]

/-- After any requests: no list is empty; a client that is refused changes
nothing; and news of a scan are tried once on each registration of it, with one
text, and leave on its list exactly the registrations that were reached, none of
them meaning that the list is gone, and every other list as it was. -/
theorem requests_reach_each_follower_once (requests : List Request) :
    let l := afterAll requests
    (∀ f ∈ l.followings, f.clients ≠ [])
      ∧ (∀ client scan fault, (greet (some fault) client scan).run.run l
        = (.error fault, l))
      ∧ ∀ now scan news arrives,
        let r := l.perform (.send now scan news arrives)
        r.2.map Sending.client = l.of scan
          ∧ (∀ s ∈ r.2, s.text = news.text now scan)
          ∧ (r.1.of scan).Perm (reachedIn r.2)
          ∧ (r.1.following? scan = none ↔ ∀ s ∈ r.2, s.arrived = false)
          ∧ ∀ other, other ≠ scan →
            r.1.following? other = l.following? other := by
  intro l
  have h : l.Sound := sound_afterAll requests
  refine ⟨h.peopled, fun client scan fault => rfl,
    fun now scan news arrives => ?_⟩
  have hsend : l.perform (.send now scan news arrives)
      = l.broadcast arrives scan (news.text now scan) := rfl
  refine ⟨?_, ?_, of_broadcast_perm h arrives scan _,
    following?_broadcast_eq_none_iff h arrives scan _,
    fun other hother => following?_broadcast_of_ne h arrives hother _⟩
  · rw [hsend, broadcast_eq h]
    exact attemptsFrom_clients arrives _ _ 1
  · rw [hsend, broadcast_eq h]
    exact attemptsFrom_text arrives _ _ 1

end Live

end SourceAudit
