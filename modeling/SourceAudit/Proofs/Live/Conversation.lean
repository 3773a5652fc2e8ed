/-
The conversation with a client that follows a scan: it says some things and
leaves.

What a client says may be a sign of life, which is answered, or something that
is passed over. JSON that is no record is neither: asking for its type fails. So
does reading a number with too many digits, and answering on a closed line. Each
ends the conversation before the client could leave, so that it stays on the
list of its scan (`leaves_unless_refused`). With an open line the clients that
stay are those who said JSON that is no record, or a number with too many
digits.
-/
import SourceAudit.Proofs.Live.Following

namespace SourceAudit

-- ============================================================= sayings

/-- What a text from a client amounts to. -/
inductive Saying where
  /-- A sign of life: a record of the type `ping`. -/
  | ping
  /-- Another record, or no JSON at all. -/
  | other
  /-- JSON that is no record, by its kind. -/
  | shapeless (kind : String)
  /-- JSON with a number of too many digits. -/
  | overlong (count : Nat)

namespace Saying

/-- What a value amounts to. -/
def ofValue : Value → Saying
  | .record fields =>
    if (Value.lookup "type" fields).bind Value.asText? = some "ping" then .ping
      else .other
  | v => .shapeless v.kind

/-- What a text amounts to. -/
def of (text : String) : Saying :=
  match Value.ofJson text with
  | .error (.tooManyDigits count) => .overlong count
  | .error _ => .other
  | .ok v => ofValue v

/-- Whether something said is a sign of life. -/
def isPing : Saying → Bool
  | .ping => true
  | _ => false

/-- A text that is not JSON amounts to nothing in particular. -/
theorem of_misread {text source : String} {why : Value.Json.Misread}
    (h : Value.ofJson text = .error (.misread source why)) :
    Saying.of text = .other := by
  unfold Saying.of
  rw [h]

/-- A text with a number of too many digits is said as such. -/
theorem of_tooManyDigits {text : String} {count : Nat}
    (h : Value.ofJson text = .error (.tooManyDigits count)) :
    Saying.of text = .overlong count := by
  unfold Saying.of
  rw [h]

/-- A text that is JSON amounts to what its value does. -/
theorem of_ok {text : String} {v : Value} (h : Value.ofJson text = .ok v) :
    Saying.of text = ofValue v := by
  unfold Saying.of
  rw [h]

/-- A record is a sign of life or passed over. -/
theorem ofValue_record (fields : List (String × Value)) :
    ofValue (.record fields) = .ping ∨ ofValue (.record fields) = .other := by
  simp only [ofValue]
  split
  · exact .inl rfl
  · exact .inr rfl

/-- A value that is no record is shapeless. -/
theorem ofValue_of_ne_record {v : Value} (h : ∀ fields, v ≠ .record fields) :
    ofValue v = .shapeless v.kind := by
  cases v with
  | record fields => exact absurd rfl (h fields)
  | _ => rfl

end Saying

/-- A value equals a text if it is that text. -/
theorem Value.same_text_iff (v : Value) (s : String) :
    v.same (.text s) = true ↔ v.asText? = some s := by
  cases v with
  | text t =>
      unfold Value.same
      rw [beq_iff_eq]
      exact ⟨congrArg some, Option.some.inj⟩
  | _ =>
      unfold Value.same
      exact ⟨fun h => (nomatch h), fun h => (nomatch h)⟩

namespace Live

/-- Why a text from a client is refused, if it is. -/
def refusal? (l : Live) (client text : String) : Option Fault :=
  match Saying.of text with
  | .ping => if l.isClosed client then some (.outside "closed") else none
  | .other => none
  | .shapeless kind => some (.noMember kind "get")
  | .overlong count => some (.tooManyDigits count)

/-- The state after so many answers to signs of life. -/
def withPongs (l : Live) (now : Moment) (client : String) (n : Nat) : Live :=
  { l with sent := List.replicate n (client, pongMessage now) ++ l.sent }

section Conversation

variable (l : Live) (now : Moment) (client scan : String)

/-- Hearing a text: it is refused, or answered if it is a sign of life. -/
theorem hear_eq (text : String) :
    l.hear now client text
      = match l.refusal? client text with
        | some fault => .error fault
        | none =>
          .ok (l.withPongs now client (Saying.of text).isPing.toNat) := by
  unfold hear refusal?
  cases hread : Value.ofJson text with
  | error fault =>
      rcases Value.ofJson_eq_error hread with ⟨why, rfl⟩ | ⟨count, rfl⟩
      · rw [Saying.of_misread hread]
        rfl
      · rw [Saying.of_tooManyDigits hread]
  | ok v =>
      cases v with
      | record fields =>
          have hof : Saying.of text
              = if (Value.lookup "type" fields).bind Value.asText? = some
                "ping" then .ping
                else .other := Saying.of_ok hread
          have hsame :
            ((Value.lookup "type" fields).getD .null).same (.text "ping") = true
              ↔ (Value.lookup "type" fields).bind Value.asText?
                = some "ping" := by
            rw [Value.same_text_iff]
            cases Value.lookup "type" fields with
            | none => exact Iff.rfl
            | some v => exact Iff.rfl
          rw [hof]
          show (if ((Value.lookup "type" fields).getD .null).same
            (.text "ping") = true then
              if l.isClosed client = true then _ else _ else _) = _
          by_cases hping : (Value.lookup "type" fields).bind Value.asText?
            = some "ping"
          · rw [if_pos (hsame.2 hping), if_pos hping]
            dsimp only
            by_cases hclosed : l.isClosed client = true
            · rw [if_pos hclosed, if_pos hclosed]
            · rw [if_neg hclosed, if_neg hclosed]
              rfl
          · rw [if_neg (mt hsame.1 hping), if_neg hping]
            rfl
      | _ =>
          rw [Saying.of_ok hread]
          rfl

/-- Answers one after another. -/
theorem withPongs_withPongs (m n : Nat) :
    (l.withPongs now client m).withPongs now client n
      = l.withPongs now client (n + m) := by
  unfold withPongs
  rw [List.replicate_add, List.append_assoc]

/-- The end of a conversation: the texts up to the first that is refused are
answered, and the client leaves if none is. -/
theorem converse_go (incoming : List String) :
    converse.go now client scan l incoming
      = let heard := incoming.takeWhile fun text =>
        (l.refusal? client text).isNone
        let after :=
          l.withPongs now client (heard.countP fun text =>
            (Saying.of text).isPing)
        match incoming.findSome? (l.refusal? client) with
        | some fault => (after, some fault)
        | none => (after.disconnect client scan, none) := by
  induction incoming generalizing l with
  | nil => rfl
  | cons text rest ih =>
      unfold converse.go
      rw [hear_eq, List.findSome?_cons, List.takeWhile_cons]
      cases hrefused : l.refusal? client text with
      | some fault => rfl
      | none =>
          show converse.go now client scan (l.withPongs now client _) rest = _
          rw [ih, Option.isNone_none, if_pos rfl]
          dsimp only
          rw [withPongs_withPongs, List.countP_cons]
          cases (Saying.of text).isPing with
          | true => rfl
          | false => rfl

/-- A client that begins to follow a scan stands last on its list. -/
theorem of_connect : (l.connect client scan).of scan = l.of scan ++
    [client] := by
  have hjoined := following?_join (l.record client "accept") client scan scan
  rw [if_pos rfl, show (l.record client "accept").following? scan
    = l.following? scan from rfl]
    at hjoined
  show ((l.record client "accept").join client scan).of scan = _
  unfold of
  rw [hjoined]
  cases l.following? scan with
  | none => rfl
  | some g => rfl

/-- A client that begins to follow a scan is told so. -/
theorem sent_connect : (l.connect client scan).sent
    = (client, "accept") :: l.sent := by
  show ((l.record client "accept").join client scan).sent = _
  unfold join
  split <;> rfl

/-- A client that begins to follow a scan opens or closes no line. -/
theorem refusal?_connect : (l.connect client scan).refusal? = l.refusal? := by
  have hclosed : (l.connect client scan).closed = l.closed := by
    show ((l.record client "accept").join client scan).closed = _
    unfold join
    split <;> rfl
  funext who text
  unfold refusal? isClosed
  rw [hclosed]

/-- A client that begins to follow a scan leaves the followers of the others
alone. -/
theorem following?_connect_of_ne {other : String} (hother : other ≠ scan) :
    (l.connect client scan).following? other = l.following? other := by
  show ((l.record client "accept").join client scan).following? other = _
  rw [following?_join, if_neg hother]
  rfl

theorem Sound.withPongs {l : Live} (h : l.Sound) (n : Nat) :
    (l.withPongs now client n).Sound :=
  ⟨h.distinct, h.peopled, h.numbered⟩

/-- A conversation: the client is accepted, the texts up to the first that is
refused are answered, and the client leaves if none is. -/
theorem converse_eq (incoming : List String) :
    l.converse now client scan incoming
      = let heard := incoming.takeWhile fun text =>
        (l.refusal? client text).isNone
        let after := (l.connect client scan).withPongs now client
          (heard.countP fun text => (Saying.of text).isPing)
        match incoming.findSome? (l.refusal? client) with
        | some fault => (after, some fault)
        | none => (after.disconnect client scan, none) := by
  have hgo := converse_go (l.connect client scan) now client scan incoming
  rw [refusal?_connect] at hgo
  exact hgo

/-- What a conversation fails for is the first refusal. -/
theorem fault_converse (incoming : List String) :
    (l.converse now client scan incoming).2
      = incoming.findSome? (l.refusal? client) := by
  rw [converse_eq]
  cases incoming.findSome? (l.refusal? client) with
  | some fault => rfl
  | none => rfl

/-- What is sent in a conversation. Leaving sends nothing, so it does not depend
on how the conversation ends. -/
theorem sent_converse (incoming : List String) :
    (l.converse now client scan incoming).1.sent
      = List.replicate ((incoming.takeWhile fun text =>
        (l.refusal? client text).isNone).countP fun text =>
          (Saying.of text).isPing) (client, pongMessage now)
        ++ (client, "accept") :: l.sent := by
  rw [converse_eq, ← sent_connect l client scan]
  cases incoming.findSome? (l.refusal? client) with
  | some fault => rfl
  | none => rfl

/-- The followers of the scan after a conversation: the client has been added,
and taken off again unless the conversation failed. -/
theorem of_converse {l : Live} (h : l.Sound) (incoming : List String) :
    (l.converse now client scan incoming).1.of scan
      = if (l.converse now client scan incoming).2.isNone then
        (l.of scan ++ [client]).erase client
        else l.of scan ++ [client] := by
  rw [converse_eq, ← of_connect l client scan]
  cases incoming.findSome? (l.refusal? client) with
  | some fault => rfl
  | none =>
      exact of_disconnect ((h.connect client scan).withPongs now client _)
        client scan

/-- A conversation leaves the followers of other scans alone. -/
theorem following?_converse_of_ne {l : Live} (h : l.Sound) {other : String}
    (hother : other ≠ scan) (incoming : List String) :
    (l.converse now client scan incoming).1.following? other
      = l.following? other := by
  rw [converse_eq, ← following?_connect_of_ne l client scan hother]
  cases incoming.findSome? (l.refusal? client) with
  | some fault => rfl
  | none =>
      refine (following?_disconnect
        ((h.connect client scan).withPongs now client _) client scan
          other).trans ?_
      rw [if_neg hother]
      rfl

/-- On an open line exactly the texts are refused that are JSON but no records,
or that have a number of too many digits. -/
theorem refusal?_eq_none_iff {l : Live} {client : String}
    (hopen : l.isClosed client = false) (text : String) :
    l.refusal? client text = none
      ↔ (∀ v, Value.ofJson text = .ok v → ∃ fields, v = .record fields)
        ∧ ∀ count, Value.ofJson text ≠ .error (.tooManyDigits count) := by
  unfold refusal?
  rw [hopen]
  cases hread : Value.ofJson text with
  | error fault =>
      rcases Value.ofJson_eq_error hread with ⟨why, rfl⟩ | ⟨count, rfl⟩
      · rw [Saying.of_misread hread]
        exact ⟨fun _ => ⟨fun v hv => (nomatch hv), fun _ h => (nomatch h)⟩,
          fun _ => rfl⟩
      · rw [Saying.of_tooManyDigits hread]
        exact ⟨fun h => (nomatch h), fun h => absurd rfl (h.2 count)⟩
  | ok v =>
      rw [Saying.of_ok hread]
      constructor
      · refine fun hnone => ⟨fun v' hv' => ?_, fun _ h => (nomatch h)⟩
        obtain rfl := Except.ok.inj hv'
        by_contra hno
        rw [Saying.ofValue_of_ne_record fun fields hv =>
          hno ⟨fields, hv⟩] at hnone
        cases hnone
      · intro hall
        obtain ⟨fields, rfl⟩ := hall.1 v rfl
        rcases Saying.ofValue_record fields with h | h
        · rw [h]
          rfl
        · rw [h]

end Conversation

/-- In a conversation the first text that is refused ends it. Up to there the
client is accepted and every sign of life is answered, and nothing else is sent;
the client leaves its scan if no text is refused and stays on the list
otherwise. On an open line what is refused is JSON that is no record, and a
number with too many digits. -/
theorem leaves_unless_refused {l : Live} (h : l.Sound) (now : Moment)
    (client scan : String) (incoming : List String) :
    let r := l.converse now client scan incoming
    let heard := incoming.takeWhile fun text => (l.refusal? client text).isNone
    r.2 = incoming.findSome? (l.refusal? client)
      ∧ r.1.sent
        = List.replicate (heard.countP fun text => (Saying.of text).isPing)
          (client, pongMessage now) ++ (client, "accept") :: l.sent
      ∧ r.1.of scan = (if r.2.isNone then (l.of scan ++ [client]).erase client
          else l.of scan ++ [client])
      ∧ (∀ other, other ≠ scan → r.1.following? other = l.following? other)
      ∧ (client ∉ l.of scan → (client ∉ r.1.of scan ↔ r.2 = none))
      ∧ (l.isClosed client = false → (r.2 = none ↔ ∀ text ∈ incoming,
          (∀ v, Value.ofJson text = .ok v → ∃ fields, v = .record fields)
            ∧ ∀ count, Value.ofJson text ≠ .error (.tooManyDigits count))) := by
  intro r heard
  have hfault : r.2 = incoming.findSome? (l.refusal? client) :=
    fault_converse l now client scan incoming
  have hlist := of_converse now client scan h incoming
  refine ⟨hfault, sent_converse l now client scan incoming, hlist,
    fun other hother =>
      following?_converse_of_ne now client scan h hother incoming, ?_, ?_⟩
  · intro hnew
    rw [hlist]
    show _ ↔ r.2 = none
    cases r.2 with
    | none =>
        rw [Option.isNone_none, if_pos rfl, List.erase_append_right _ hnew,
          List.erase_cons_head, List.append_nil]
        exact ⟨fun _ => rfl, fun _ => hnew⟩
    | some fault =>
        rw [Option.isNone_some, if_neg Bool.false_ne_true]
        exact ⟨fun hno =>
          absurd (List.mem_append_right _ (List.mem_singleton.2 rfl)) hno,
          fun hno => (nomatch hno)⟩
  · intro hopen
    rw [hfault, List.findSome?_eq_none_iff]
    exact forall₂_congr fun text _ => refusal?_eq_none_iff hopen text

/-- Noon of a day. -/
def noon : Moment := ⟨2024, 1, 1, 12, 0, 0, 0⟩

/-- A client that gives a sign of life and says two more things that are passed
over. -/
theorem leaves_unless_refused_chatter :
    Live.empty.Sound ∧
      (let r := Live.empty.converse noon "a" "s"
        ["\x7b\"type\": \"ping\"\x7d", "hello", "\x7b\x7d"]
       r.2 = none ∧ r.1.sent = [("a", pongMessage noon), ("a", "accept")] ∧
        "a" ∉ r.1.of "s") := by
  obtain ⟨hfault, hsent, -, -, hgone, -⟩ :=
    leaves_unless_refused sound_empty noon "a" "s"
    ["\x7b\"type\": \"ping\"\x7d", "hello", "\x7b\x7d"]
  have hnone := hfault.trans (Option.isNone_iff_eq_none.1 (by decide +kernel))
  refine ⟨sound_empty, hnone, ?_, (hgone (by decide)).2 hnone⟩
  rw [hsent]
  decide +kernel

/-- A client that says a list after a sign of life stays on the list of its
scan. -/
theorem list_keeps_client_registered :
    let r :=
      Live.empty.converse noon "a" "s" ["\x7b\"type\": \"ping\"\x7d", "[]"]
    r.1.of "s" = ["a"]
      ∧ r.2.map Fault.message
        = some "'list' object has no attribute 'get'" := by
  decide +kernel

end Live

end SourceAudit
