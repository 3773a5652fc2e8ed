/-
Access to the store: the one client that is made on demand and kept, and the
client of the database service, which does without if there is none.
-/
import SourceAudit.Settings.Environment
import SourceAudit.Store.Client

namespace SourceAudit.Store

/-- A client, known by the address and the key it was made with. -/
structure ClientId where
  url : String
  key : String

def ClientId.text (c : ClientId) : String :=
  "client(" ++ c.url ++ "," ++ c.key ++ ")"

def setting? (env : Environment) (name : String) : Option String :=
  (env.get? name).filter fun s => !s.isEmpty

/-- Makes a client; `failure` is why that fails, if it does. -/
def connect (failure : Option String) (url key : String) : Outcome ClientId :=
  match failure with
  | some reason => .error (.outside reason)
  | none => .ok ⟨url, key⟩

-- ==================================================== the kept client

/-- What is asked on the way to a client: a setting, or the client for an address and
a key, with what came of it. -/
inductive Inquiry (κ : Type) where
  | setting (name : String)
  | client (url key : String) (result : Outcome κ)

/-- The place of the one client: the client, if it holds one, and what was asked so
far (the last first). -/
structure Holder (κ : Type) where
  kept : Option κ
  inquiries : List (Inquiry κ)

/-- What is done with a holder; what was asked stays on record when it fails. -/
abbrev Holding (κ α : Type) := ExceptT Fault (StateM (Holder κ)) α

namespace Holder

variable {κ : Type}

def empty : Holder κ := ⟨none, []⟩

def note (i : Inquiry κ) : Holding κ Unit :=
  modify fun h => { h with inquiries := i :: h.inquiries }

def lookUp (env : Environment) (name : String) : Holding κ (Option String) := do
  note (.setting name)
  return setting? env name

def order (make : String → String → Outcome κ) (url key : String) : Holding κ κ := do
  note (.client url key (make url key))
  match make url key with
  | .ok c => return c
  | .error f => throw f

/-- The kept client, or a new one, which is kept from then on. Its key is that of the
service or the public one. -/
def get (env : Environment) (make : String → String → Outcome κ) : Holding κ κ := do
  match (← getThe (Holder κ)).kept with
  | some c => return c
  | none =>
    let url ← lookUp env "SUPABASE_URL"
    let service ← lookUp env "SUPABASE_SERVICE_ROLE_KEY"
    let key ← if service.isSome then pure service else lookUp env "SUPABASE_ANON_KEY"
    match url, key with
    | some url, some key =>
      let c ← order make url key
      modify fun h => { h with kept := some c }
      return c
    | _, _ =>
      throw (.missingSettings "SUPABASE_URL and SUPABASE_SERVICE_ROLE_KEY (or SUPABASE_ANON_KEY)")

def reset (h : Holder κ) : Holder κ :=
  { h with kept := none }

end Holder

/-- The client that a holder makes first. -/
def client (env : Environment) (failure : Option String) : Outcome ClientId :=
  ((Holder.get env (connect failure)).run.run .empty).1

-- ================================================ the database service

/-- The client of the database service: only the key of the service will do, and
any failure leaves it without one. -/
def serviceClient? (env : Environment) (failure : Option String) : Option ClientId :=
  match setting? env "SUPABASE_URL", setting? env "SUPABASE_SERVICE_ROLE_KEY" with
  | some url, some key => (connect failure url key).toOption
  | _, _ => none

/-- Asks the store for anything, to see whether it answers. -/
def test : Action Value :=
  Action.orElse (do
    let _ ← Action.rows (((Query.table "profiles").select "id").limit (.int 1))
    return .bool true) (.bool false)

end SourceAudit.Store
