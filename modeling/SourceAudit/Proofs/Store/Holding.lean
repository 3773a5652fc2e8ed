/-
The one client that is made on demand and kept.

A holder without a client asks for the settings and has a client made; the
client is kept if one comes of it, and nothing else changes
(`run_get_of_empty`). A holder with a client asks for nothing
(`run_get_of_kept`), so until it is reset it stays as it is, whatever the
environment has become meanwhile (`serveAll_of_kept`).
-/
import SourceAudit.Store.Access

namespace SourceAudit.Store

variable {κ : Type} {env env' : Environment}
    {make make' : String → String → Outcome κ}

-- ================================================== what settings name

/-- The address that settings name. -/
def address? (env : Environment) : Option String :=
  setting? env "SUPABASE_URL"

/-- The key that settings name: that of the service, if it is there and not
empty, else the public one. -/
def key? (env : Environment) : Option String :=
  (setting? env "SUPABASE_SERVICE_ROLE_KEY").or
    (setting? env "SUPABASE_ANON_KEY")

/-- What comes of making a client from settings. -/
def attempt (env : Environment) (make : String → String → Outcome κ) :
    Outcome κ :=
  match address? env, key? env with
  | some url, some key => make url key
  | _, _ =>
    .error
      (.missingSettings
        "SUPABASE_URL and SUPABASE_SERVICE_ROLE_KEY (or SUPABASE_ANON_KEY)")

/-- The settings that are looked up for a client; the public key only for want
of the other. -/
def lookups (env : Environment) : List (Inquiry κ) :=
  [.setting "SUPABASE_URL", .setting "SUPABASE_SERVICE_ROLE_KEY"] ++
    if (setting? env "SUPABASE_SERVICE_ROLE_KEY").isSome then []
      else [.setting "SUPABASE_ANON_KEY"]

/-- The client that is ordered, if the settings name an address and a key. -/
def orders (env : Environment) (make : String → String → Outcome κ) :
    List (Inquiry κ) :=
  match address? env, key? env with
  | some url, some key => [.client url key (make url key)]
  | _, _ => []

/-- Whether a client was made. -/
def Inquiry.isMade : Inquiry κ → Bool
  | .client _ _ (.ok _) => true
  | _ => false

/-- What a holder is asked: its client, with the settings and the making of
clients as they are at that time, or to let its client go. -/
inductive Request (κ : Type) where
  | get (env : Environment) (make : String → String → Outcome κ)
  | reset

namespace Holder

variable {h : Holder κ} {c : κ}

-- ============================================================ requests

theorem run_get_of_kept (hkept : h.kept = some c) (env : Environment)
    (make : String → String → Outcome κ) :
    (get env make).run.run h = (.ok c, h) := by
  obtain ⟨kept, inquiries⟩ := h
  obtain rfl : kept = some c := hkept
  rfl

/-- A client that is made is kept; one that is not leaves the holder as it
was. -/
theorem run_order (make : String → String → Outcome κ) (url key : String)
    (h : Holder κ) :
    (do let c ← order make url key
        modify fun h => { h with kept := some c }
        return c : Holding κ κ).run.run h
      = (make url key, ⟨(make url key).toOption.or h.kept,
          .client url key (make url key) :: h.inquiries⟩) := by
  unfold order
  cases make url key <;> rfl

/-- A holder without a client asks for the settings, then for a client if they
name one, and keeps what comes of it. -/
theorem run_get_of_empty (hkept : h.kept = none) (env : Environment)
    (make : String → String → Outcome κ) :
    (get env make).run.run h
      = (attempt env make, ⟨(attempt env make).toOption,
          (orders env make).reverse ++
            ((lookups env).reverse ++ h.inquiries)⟩) := by
  obtain ⟨kept, inquiries⟩ := h
  obtain rfl : kept = none := hkept
  unfold get lookUp attempt orders lookups address? key?
  generalize setting? env "SUPABASE_URL" = url
  generalize setting? env "SUPABASE_SERVICE_ROLE_KEY" = service
  generalize setting? env "SUPABASE_ANON_KEY" = anonymous
  cases url with
  | none => cases service <;> cases anonymous <;> rfl
  | some url =>
      cases service with
      | some key =>
          refine (run_order make url key _).trans ?_
          simp
      | none =>
          cases anonymous with
          | none => rfl
          | some key =>
              refine (run_order make url key _).trans ?_
              simp

/-- The answer to a get. -/
def answer (h : Holder κ) (env : Environment)
    (make : String → String → Outcome κ) : Outcome κ :=
  ((get env make).run.run h).1

/-- The holder after a request. -/
def serve (h : Holder κ) : Request κ → Holder κ
  | .get env make => ((get env make).run.run h).2
  | .reset => h.reset

/-- A get asks for what the settings of its time name, and answers with what
comes of it. -/
def Tries (h : Holder κ) (env : Environment)
    (make : String → String → Outcome κ) : Prop :=
  h.answer env make = attempt env make ∧
    (h.serve (.get env make)).inquiries
      = (orders env make).reverse ++ ((lookups env).reverse ++ h.inquiries)

theorem answer_of_kept (hkept : h.kept = some c) :
    h.answer env make = .ok c := by
  rw [answer, run_get_of_kept hkept]

theorem serve_get_of_kept (hkept : h.kept = some c) :
    h.serve (.get env make) = h := by
  rw [serve, run_get_of_kept hkept]

theorem tries_of_empty (hkept : h.kept = none) (env : Environment)
    (make : String → String → Outcome κ) : h.Tries env make := by
  constructor
  · rw [answer, run_get_of_empty hkept]
  · rw [serve, run_get_of_empty hkept]

/-- After a get the holder has the client that the get gave, or none. -/
theorem kept_serve_get (h : Holder κ) (env : Environment)
    (make : String → String → Outcome κ) :
    (h.serve (.get env make)).kept = (h.answer env make).toOption := by
  cases hkept : h.kept with
  | some c =>
      rw [serve_get_of_kept hkept, answer_of_kept hkept]
      exact hkept
  | none => rw [answer, serve, run_get_of_empty hkept]

-- =========================================================== histories

/-- The holder after several requests. -/
def serveAll (h : Holder κ) (requests : List (Request κ)) : Holder κ :=
  requests.foldl serve h

theorem serveAll_append (h : Holder κ) (before later : List (Request κ)) :
    h.serveAll (before ++ later) = (h.serveAll before).serveAll later :=
  List.foldl_append

/-- How many clients were made so far. -/
def made (h : Holder κ) : Nat :=
  h.inquiries.countP Inquiry.isMade

/-- Until it is reset, a holder with a client stays as it is. -/
theorem serveAll_of_kept (hkept : h.kept = some c) {stretch : List (Request κ)}
    (hno : .reset ∉ stretch) : h.serveAll stretch = h := by
  induction stretch with
  | nil => rfl
  | cons r rest ih =>
      obtain ⟨hr, hrest⟩ := not_or.1 (mt List.mem_cons.2 hno)
      cases r with
      | get env make =>
          rw [serveAll, List.foldl_cons, serve_get_of_kept hkept]
          exact ih hrest
      | reset => exact absurd rfl hr

/-- An attempt makes a client if it succeeds, and else none. -/
theorem countP_isMade_orders (env : Environment)
    (make : String → String → Outcome κ) :
    (orders env make).countP Inquiry.isMade = if (attempt env make).isOk then 1
      else 0 := by
  have hone (url key : String) (result : Outcome κ) :
      [Inquiry.client url key result].countP Inquiry.isMade
        = if result.isOk then 1 else 0 := by
    cases result <;> rfl
  unfold orders attempt
  split
  · exact hone _ _ _
  · rfl

theorem made_serve_get_of_empty (hkept : h.kept = none) (env : Environment)
    (make : String → String → Outcome κ) :
    (h.serve (.get env make)).made = h.made + if (h.answer env make).isOk then 1
      else 0 := by
  obtain ⟨hanswer, hinquiries⟩ := tries_of_empty hkept env make
  have hlookups : (lookups env : List (Inquiry κ)).countP Inquiry.isMade
      = 0 := by
    unfold lookups
    split <;> rfl
  unfold made
  rw [hinquiries, hanswer, List.countP_append, List.countP_append,
    List.countP_reverse, List.countP_reverse, hlookups, countP_isMade_orders]
  omega

/-- Without a reset at most one client is made. -/
theorem made_serveAll_le {stretch : List (Request κ)} (hno : .reset ∉ stretch) :
    (h.serveAll stretch).made ≤ h.made + 1 := by
  induction stretch generalizing h with
  | nil => exact Nat.le_succ _
  | cons r rest ih =>
      obtain ⟨hr, hrest⟩ := not_or.1 (mt List.mem_cons.2 hno)
      cases hkept : h.kept with
      | some c =>
          rw [serveAll_of_kept hkept hno]
          exact Nat.le_succ _
      | none =>
          cases r with
          | reset => exact absurd rfl hr
          | get env make =>
              have hmade := made_serve_get_of_empty hkept env make
              have hnext := kept_serve_get h env make
              rw [serveAll, List.foldl_cons]
              cases hanswer : h.answer env make with
              | ok c =>
                  -- the one client: from here on nothing changes
                  rw [hanswer] at hmade hnext
                  have hstays := serveAll_of_kept hnext hrest
                  rw [serveAll] at hstays
                  rw [hstays, hmade]
                  exact Nat.le_refl _
              | error f =>
                  rw [hanswer] at hmade
                  have hrest := ih (h := h.serve (.get env make)) hrest
                  rw [hmade] at hrest
                  exact hrest

/-- Of whatever has been asked of a holder: without a reset at most one client
is made; what a get gives, every get gives until a reset, and it asks for
nothing; and after a get that fails, or a reset, there is no client, and the
next get makes one from the settings of its own time. -/
theorem one_client_between_resets (before : List (Request κ)) :
    (∀ stretch, .reset ∉ stretch →
      (empty.serveAll (before ++ stretch)).made
        ≤ (empty.serveAll before).made + 1) ∧
    (∀ env make stretch c, .reset ∉ stretch →
      (empty.serveAll before).answer env make = .ok c → ∀ env' make',
      let later := empty.serveAll (before ++ .get env make :: stretch)
      later.answer env' make' = .ok c ∧
        later.serve (.get env' make') = later) ∧
    (∀ env make f, (empty.serveAll before).answer env make = .error f →
      ∀ env' make', let next := empty.serveAll (before ++ [.get env make])
        next.kept = none ∧ next.Tries env' make') ∧
    (∀ env' make', let next := empty.serveAll (before ++ [.reset])
      next.kept = none ∧ next.Tries env' make') := by
  refine ⟨?_, ?_, ?_, ?_⟩
  · intro stretch hno
    rw [serveAll_append]
    exact made_serveAll_le hno
  · intro env make stretch c hno hanswer env' make'
    have hkept : ((empty.serveAll before).serve (.get env make)).kept
        = some c := by
      rw [kept_serve_get, hanswer]
      rfl
    have hlater : empty.serveAll (before ++ .get env make :: stretch)
        = (empty.serveAll before).serve (.get env make) := by
      rw [serveAll_append]
      exact serveAll_of_kept hkept hno
    rw [hlater]
    exact ⟨answer_of_kept hkept, serve_get_of_kept hkept⟩
  · intro env make f hanswer env' make'
    have hkept : (empty.serveAll (before ++ [.get env make])).kept = none := by
      rw [serveAll_append]
      exact (kept_serve_get _ env make).trans (congrArg Except.toOption hanswer)
    exact ⟨hkept, tries_of_empty hkept env' make'⟩
  · intro env' make'
    have hkept : (empty.serveAll (before ++ [.reset])).kept = none := by
      rw [serveAll_append]
      rfl
    exact ⟨hkept, tries_of_empty hkept env' make'⟩

/-- An address and a public key; the key of the service is empty. -/
def publicAccess : Environment :=
  ⟨[("SUPABASE_URL", "u"), ("SUPABASE_SERVICE_ROLE_KEY", ""),
    ("SUPABASE_ANON_KEY", "a")]⟩

/-- An address and both keys. -/
def serviceAccess : Environment :=
  ⟨[("SUPABASE_URL", "u"), ("SUPABASE_SERVICE_ROLE_KEY", "k"),
    ("SUPABASE_ANON_KEY", "a")]⟩

/-- A get without settings. -/
def unsettled : Request ClientId :=
  .get ⟨[]⟩ (connect none)

/-- A client made with the public key is kept though the key of the service
comes to be known; one that could not be made leaves the next to be made with
that key. -/
theorem one_client_between_resets_keys :
    ((empty.serveAll [unsettled]).answer publicAccess (connect none)
      = .ok ⟨"u", "a"⟩ ∧
      (empty.serveAll ([unsettled] ++
        .get publicAccess (connect none) :: [unsettled])).answer serviceAccess
          (connect none) = .ok ⟨"u", "a"⟩) ∧
    ((empty.serveAll [unsettled]).answer publicAccess (connect (some "down"))
        = .error (.outside "down") ∧
      (empty.serveAll ([unsettled] ++
        [.get publicAccess (connect (some "down"))])).answer serviceAccess
          (connect none) = .ok ⟨"u", "k"⟩) := by
  have hmade : (empty.serveAll [unsettled]).answer publicAccess (connect none)
      = .ok ⟨"u", "a"⟩ := rfl
  have hdown :
    (empty.serveAll [unsettled]).answer publicAccess (connect (some "down"))
      = .error (.outside "down") := rfl
  obtain ⟨-, hkept, hfailed, -⟩ := one_client_between_resets [unsettled]
  have hno : Request.reset ∉ [unsettled] := by simp [unsettled]
  refine ⟨⟨hmade, (hkept _ _ _ _ hno hmade _ _).1⟩, hdown, ?_⟩
  exact (hfailed _ _ _ hdown serviceAccess (connect none)).2.1

end Holder

end SourceAudit.Store
