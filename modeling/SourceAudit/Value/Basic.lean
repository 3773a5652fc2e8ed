/-
Values of data whose shape is not fixed: settings as they were given, rows of a
store, what an outside tool reports.

Fields of a record keep the order in which they came; a second value for a field
replaces the first in place.
-/
import SourceAudit.Number.Shortest

namespace SourceAudit

/-- A value of data whose shape is not fixed. -/
inductive Value where
  | null
  | bool (b : Bool)
  | int (n : Int)
  | real (x : Float)
  | text (s : String)
  | date (iso : String)
  | list (items : List Value)
  | record (fields : List (String × Value))

namespace Value

instance : Inhabited Value := ⟨.null⟩

def kind : Value → String
  | .null => "NoneType"
  | .bool _ => "bool"
  | .int _ => "int"
  | .real _ => "float"
  | .text _ => "str"
  | .date iso => if iso.toList.contains 'T' then "datetime.datetime" else "datetime.date"
  | .list _ => "list"
  | .record _ => "dict"

/-- Whether a value counts as present: nothing, zero and what is empty do not. -/
def isTruthy : Value → Bool
  | .null => false
  | .bool b => b
  | .int n => n != 0
  | .real x => x != 0
  | .text s => !s.isEmpty
  | .date _ => true
  | .list items => !items.isEmpty
  | .record fields => !fields.isEmpty

-- ============================================================== fields

def lookup (name : String) : List (String × Value) → Option Value
  | [] => none
  | (key, value) :: rest => if key == name then some value else lookup name rest

/-- Sets a field: in place if it is there, at the end if not. -/
def put (name : String) (value : Value) : List (String × Value) → List (String × Value)
  | [] => [(name, value)]
  | (key, old) :: rest =>
    if key == name then (key, value) :: rest else (key, old) :: put name value rest

def putAll (fields changes : List (String × Value)) : List (String × Value) :=
  changes.foldl (fun done change => put change.1 change.2 done) fields

def get? (name : String) : Value → Option Value
  | .record fields => lookup name fields
  | _ => none

/-- A field of a record, or a stand-in if there is none. -/
def getD (v : Value) (name : String) (fallback : Value) : Value :=
  (v.get? name).getD fallback

/-- The fields of a record; other values have none. -/
def fields : Value → List (String × Value)
  | .record fs => fs
  | _ => []

/-- The items of a list; other values have none. -/
def items : Value → List Value
  | .list xs => xs
  | _ => []

def asText? : Value → Option String
  | .text s => some s
  | _ => none

def asInt? : Value → Option Int
  | .int n => some n
  | _ => none

def texts (xs : List String) : Value :=
  .list (xs.map .text)

def ofOption : Option Value → Value
  | some v => v
  | none => .null

def ofText? (s : Option String) : Value :=
  ofOption (s.map .text)

def ofNat (n : Nat) : Value :=
  .int n

-- ============================================================ equality

/-- Whether a whole number and a finite binary number are the same. -/
def sameNumber (n : Int) (x : Float) : Bool :=
  match Number.parts x with
  | .finite negative v =>
    let m : Int := if negative then -(v.mantissa : Int) else v.mantissa
    if 0 ≤ v.exponent then n == m * Int.pow 2 v.exponent.toNat
    else n * Int.pow 2 (-v.exponent).toNat == m
  | _ => false

/-- The whole number a value stands for in a comparison. -/
def asWhole? : Value → Option Int
  | .bool b => some (if b then 1 else 0)
  | .int n => some n
  | _ => none

mutual

/-- Whether two values are equal: numbers by what they count, records whatever
the order of their fields. -/
def same : Value → Value → Bool
  | .null, .null => true
  | .text s, .text t => s == t
  | .date s, .date t => s == t
  | .real x, .real y => x == y
  | .list xs, .list ys => sameItems xs ys
  | .record xs, .record ys => xs.length == ys.length && sameFields xs ys
  | .real x, w => (w.asWhole?).any fun n => sameNumber n x
  | .bool b, w =>
    match w with
    | .real y => sameNumber (if b then 1 else 0) y
    | _ => w.asWhole? == some (if b then 1 else 0)
  | .int n, w =>
    match w with
    | .real y => sameNumber n y
    | _ => w.asWhole? == some n
  | _, _ => false

/-- Whether two lists have equal items in the same order. -/
def sameItems : List Value → List Value → Bool
  | [], [] => true
  | x :: xs, y :: ys => same x y && sameItems xs ys
  | _, _ => false

/-- Whether each field of the first record is an equal field of the second. -/
def sameFields : List (String × Value) → List (String × Value) → Bool
  | [], _ => true
  | (key, x) :: rest, ys =>
    (match lookup key ys with
     | some y => same x y
     | none => false) && sameFields rest ys

end

def memberOf (v : Value) (xs : List Value) : Bool :=
  xs.any fun x => same x v

end Value

end SourceAudit
