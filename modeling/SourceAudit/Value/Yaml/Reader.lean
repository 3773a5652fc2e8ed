/-
YAML text as a value. In a map a later entry for a key replaces an earlier one in
place; entries of merged maps come before the map's own.
-/
import SourceAudit.Value.Yaml.Node
import SourceAudit.Value.Yaml.Scalar

namespace SourceAudit.Value.Yaml

/-- What a tag of the format says about a scalar. -/
def kindOfTag? (tag : String) : Option ScalarKind :=
  [("str", .words), ("int", .whole), ("float", .real), ("bool", .truth), ("null", .nothing),
   ("timestamp", .date), ("merge", .merge), ("value", .equals)].findSome? fun (name, found) =>
    if Node.coreTag name == tag then some found else none

def Node.kind? : Node → Option ScalarKind
  | .scalar none content => some (kindOf content)
  | .scalar (some tag) _ => kindOfTag? tag
  | _ => none

def scalarNode (tag : Option String) (content : String) : Outcome Value :=
  match tag with
  | none => scalarValue (kindOf content) content
  | some tag =>
    match kindOfTag? tag with
    | some .truth =>
      if ["yes", "true", "on", "no", "false", "off"].contains (Text.lower content) then
        scalarValue .truth content
      else .error (.unknownKey (Text.lower content))
    | some .date =>
      if kindOf content == .date then dateOf content
      else .error (.noMember "NoneType" "groupdict")
    | some found => scalarValue found content
    | none => .error .badYaml

/-- Enters an entry: in the place of one with the same key, or at the end. -/
def enter (entries : List (Value × Value)) (key value : Value) : List (Value × Value) :=
  if entries.any fun e => e.1.same key then
    entries.map fun e => if e.1.same key then (e.1, value) else e
  else entries ++ [(key, value)]

def keyName : Value → String
  | .text s => s
  | .null => "null"
  | .bool b => if b then "true" else "false"
  | .int n => toString n
  | .real x => Number.inJson.text x
  | .date iso => iso
  | _ => ""

def recordOf (entries : List (Value × Value)) : Value :=
  .record (entries.map fun (key, value) => (keyName key, value))

/-- Lists and maps cannot be keys. -/
def isKeyValue : Value → Bool
  | .list _ | .record _ => false
  | _ => true

mutual

def construct : Node → Outcome Value
  | .scalar tag content => scalarNode tag content
  | .list tag items =>
    if tag.all (· == Node.coreTag "seq") then Value.list <$> constructAll items
    else .error .badYaml
  | .map tag entries =>
    if tag.all (· == Node.coreTag "map") then do
      let (merged, own) ← constructEntries entries
      return recordOf ((merged ++ own).foldl (fun done e => enter done e.1 e.2) [])
    else .error .badYaml

def constructAll : List Node → Outcome (List Value)
  | [] => .ok []
  | node :: rest => do
    let value ← construct node
    return value :: (← constructAll rest)

/-- The entries of a map: those it merges, and its own. -/
def constructEntries : List (Node × Node) → Outcome (List (Value × Value) × List (Value × Value))
  | [] => .ok ([], [])
  | (key, value) :: rest => do
    match key.kind? with
    | some .merge =>
      let more ← mergedEntries value
      let (merged, own) ← constructEntries rest
      return (more ++ merged, own)
    | _ =>
      let k ← match key with
        | .scalar none "=" => .ok (.text "=")
        | key => construct key
      if !isKeyValue k then .error .badYaml
      let v ← construct value
      let (merged, own) ← constructEntries rest
      return (merged, (k, v) :: own)

/-- The entries a map, or each map of a list, brings into another. -/
def mergedEntries : Node → Outcome (List (Value × Value))
  | .map _ entries => do
    let (merged, own) ← constructEntries entries
    return merged ++ own
  | .list _ items => mergedFromAll items
  | .scalar _ _ => .error .badYaml

/-- The entries of several maps, the last map first. -/
def mergedFromAll : List Node → Outcome (List (Value × Value))
  | [] => .ok []
  | node :: rest => do
    match node with
    | .map _ entries =>
      let (merged, own) ← constructEntries entries
      return (← mergedFromAll rest) ++ merged ++ own
    | _ => .error .badYaml

end

/-- The root of a document: its entries if it is a map, its value if not. -/
inductive Root where
  | entries (es : List (Value × Value))
  | other (v : Value)

/-- The root of a YAML text, keys as they are written. -/
def readRoot (text : String) : Outcome Root := do
  match ← root text.toList with
  | .map none entries => do
    let (merged, own) ← constructEntries entries
    return .entries ((merged ++ own).foldl (fun done e => enter done e.1 e.2) [])
  | node => return .other (← construct node)

def read (text : String) : Outcome Value := do
  match ← readRoot text with
  | .entries es => return recordOf es
  | .other v => return v

end SourceAudit.Value.Yaml
