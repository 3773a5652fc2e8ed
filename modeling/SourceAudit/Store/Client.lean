/-
Talking to a store of tables and files.

What is asked is written down call by call; what the store answers is known from
a list of replies that are used up one after another. A store that has no replies
left answers with an empty table.
-/
import SourceAudit.Fault

namespace SourceAudit.Store

/-- A step of a query: its name, its arguments and its named arguments. -/
structure Step where
  name : String
  arguments : List Value
  named : List (String × Value)

/-- A query as the chain of its steps. -/
structure Query where
  steps : List Step

namespace Query

def add (q : Query) (name : String) (arguments : List Value) : Query :=
  ⟨q.steps ++ [⟨name, arguments, []⟩]⟩

def table (name : String) : Query := ⟨[⟨"table", [.text name], []⟩]⟩

def insert (q : Query) (rows : Value) : Query := q.add "insert" [rows]

def update (q : Query) (fields : Value) : Query := q.add "update" [fields]

def upsert (q : Query) (rows : Value) : Query := q.add "upsert" [rows]

def delete (q : Query) : Query := q.add "delete" []

def select (q : Query) (columns : String) : Query := q.add "select" [.text columns]

def eq (q : Query) (column : String) (v : Value) : Query := q.add "eq" [.text column, v]

def neq (q : Query) (column : String) (v : Value) : Query := q.add "neq" [.text column, v]

/-- Orders rows by a column, the highest first. -/
def latest (q : Query) (column : String) : Query :=
  ⟨q.steps ++ [⟨"order", [.text column], [("desc", .bool true)]⟩]⟩

def limit (q : Query) (n : Value) : Query := q.add "limit" [n]

def single (q : Query) : Query := q.add "single" []

end Query

/-- Something a store was asked. -/
inductive Call where
  | query (q : Query)
  | upload (bucket path : String) (size : Nat)
  | user (token : Value)

namespace Call

def stepValue (s : Step) : Value :=
  .list (.text s.name :: s.arguments ++ (if s.named.isEmpty then [] else [.record s.named]))

def toValue : Call → Value
  | .query q => .list (q.steps.map stepValue)
  | .upload bucket path size =>
    .list [.text "upload", .text bucket, .text path, Value.ofNat size]
  | .user token => .list [.text "auth.get_user", token]

end Call

/-- What a store answers. -/
inductive Reply where
  | answers (data error user : Value)
  | fails (reason : String)

/-- The replies that are left, and the calls so far (the last first). -/
structure Ledger where
  replies : List Reply
  calls : List Call

namespace Ledger

def ofReplies (replies : List Reply) : Ledger := ⟨replies, []⟩

/-- Writes a call down and takes the next reply. -/
def ask (call : Call) (l : Ledger) : Reply × Ledger :=
  match l.replies with
  | [] => (.answers (.list []) .null .null, ⟨[], call :: l.calls⟩)
  | reply :: rest => (reply, ⟨rest, call :: l.calls⟩)

def callsValue (l : Ledger) : Value :=
  .list (l.calls.reverse.map Call.toValue)

end Ledger

/-- An action on a store; what was asked stays on record when it fails. -/
abbrev Action (α : Type) := ExceptT Fault (StateM Ledger) α

namespace Action

def ask (call : Call) : Action (Value × Value × Value) := do
  match ← modifyGet (Ledger.ask call) with
  | .answers data error user => return (data, error, user)
  | .fails reason => throw (.outside reason)

def rows (q : Query) : Action Value := do
  return (← ask (.query q)).1

def upload (bucket path : String) (size : Nat) : Action Value := do
  return (← ask (.upload bucket path size)).2.1

def userOf (token : Value) : Action Value := do
  return (← ask (.user token)).2.2

def orElse {α : Type} (a : Action α) (fallback : α) : Action α :=
  tryCatch a fun _ => pure fallback

def ofOutcome {α : Type} (r : Outcome α) : Action α :=
  match r with
  | .ok a => pure a
  | .error f => throw f

end Action

end SourceAudit.Store
