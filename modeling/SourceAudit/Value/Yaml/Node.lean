/-
The nodes of a YAML document: scalars, lists and maps as they are written, with
aliases replaced by what they stand for.
-/
import SourceAudit.Value.Yaml.Token

namespace SourceAudit.Value.Yaml

/-- A node of a document. A scalar without a tag says by its form what it is. -/
inductive Node where
  | scalar (tag : Option String) (content : String)
  | list (tag : Option String) (items : List Node)
  | map (tag : Option String) (entries : List (Node × Node))

namespace Node

def nothing : Node := .scalar none ""

def coreTag (name : String) : String :=
  "tag:yaml.org,2002:" ++ name

end Node

-- ============================================================== parser

/-- What is left of the tokens and what the document has named so far. -/
structure Parse where
  rest : List Token
  handles : List (String × String)
  /-- The nodes that have a name. -/
  anchors : List (String × Node)
  /-- The names of the nodes around the current one. -/
  unfinished : List String

/-- A step of the parser. -/
abbrev Parser (α : Type) := StateT Parse (Except Fault) α

namespace Parser

def fail {α : Type} : Parser α :=
  throw .badYaml

def peek : Parser (Option Token) :=
  return (← get).rest.head?

def advance : Parser Unit :=
  modify fun p => { p with rest := p.rest.tail }

/-- Passes the next token if it meets a condition; whether it did. -/
def accept (p : Token → Bool) : Parser Bool := do
  if (← peek).any p then
    advance
    return true
  else return false

def sees (p : Token → Bool) : Parser Bool :=
  return (← peek).any p

def aliased (name : String) : Parser Node := do
  match (← get).anchors.find? fun a => a.1 == name with
  | some (_, node) => return node
  | none => fail

def fullTag (handle : Option String) (suffix : String) : Parser String := do
  match handle with
  | none => return suffix
  | some h =>
    match (← get).handles.find? fun e => e.1 == h with
    | some (_, start) => return start ++ suffix
    | none => fail

def anchor? : Parser (Option String) := do
  match ← peek with
  | some (.anchor name) => advance; return some name
  | _ => return none

def tag? : Parser (Option String) := do
  match ← peek with
  | some (.tag handle suffix) => advance; return some (← fullTag handle suffix)
  | _ => return none

/-- Gives a node the name that comes before it; a name is given once. -/
def naming (name : Option String) (content : Parser Node) : Parser Node := do
  match name with
  | none => content
  | some n =>
    let p ← get
    if p.unfinished.contains n || p.anchors.any fun a => a.1 == n then fail
    set { p with unfinished := n :: p.unfinished }
    let node ← content
    modify fun q =>
      { q with anchors := (n, node) :: q.anchors, unfinished := q.unfinished.tail }
    return node

/-- A token after which nothing stands for a key or a value of a block map. -/
def endsBlockPart : Token → Bool
  | .key | .colon | .blockEnd => true
  | _ => false

def isDash : Token → Bool
  | .dash => true
  | _ => false

def isColon : Token → Bool
  | .colon => true
  | _ => false

def isKey : Token → Bool
  | .key => true
  | _ => false

def isComma : Token → Bool
  | .comma => true
  | _ => false

def isBlockEnd : Token → Bool
  | .blockEnd => true
  | _ => false

def isListEnd : Token → Bool
  | .closeList => true
  | _ => false

def isMapEnd : Token → Bool
  | .closeMap => true
  | _ => false

mutual

/-- A node. `inBlock` allows block lists and maps, `bareList` a list whose dashes
are not indented. -/
def node (inBlock bareList : Bool) : Nat → Parser Node
  | 0 => fail
  | fuel + 1 => do
    if let some (.alias name) ← peek then
      advance
      return ← aliased name
    let first ← anchor?
    let tag ← tag?
    let name ← if first.isSome then pure first else anchor?
    naming name (content inBlock bareList tag (tag.isSome || name.isSome) fuel)

/-- A node after its anchor and its tag; `isMarked` says whether it has one. -/
def content (inBlock bareList : Bool) (tag : Option String) (isMarked : Bool) :
    Nat → Parser Node
  | 0 => fail
  | fuel + 1 => do
    let own := tag.filter (· != "!")
    match ← peek with
    | some (.scalar s isPlain) =>
      advance
      let isText := tag.isNone && !isPlain
      return .scalar (if isText then some (Node.coreTag "str") else own) s
    | some .openList => advance; return .list own (← flowItems true fuel)
    | some .openMap => advance; return .map own (← flowEntries true fuel)
    | some .dash =>
      if bareList then return .list own (← dashItems true fuel)
      else if isMarked then return .scalar own ""
      else fail
    | some .blockList =>
      if inBlock then advance; return .list own (← dashItems false fuel)
      else if isMarked then return .scalar own ""
      else fail
    | some .blockMap =>
      if inBlock then advance; return .map own (← blockEntries fuel)
      else if isMarked then return .scalar own ""
      else fail
    | _ => if isMarked then return .scalar own "" else fail

/-- The items of a block list; those of a bare one have no end mark. -/
def dashItems (isBare : Bool) : Nat → Parser (List Node)
  | 0 => fail
  | fuel + 1 => do
    if ← accept isDash then
      let isEmpty ← sees fun t => isDash t || (if isBare then endsBlockPart t else isBlockEnd t)
      let item ← if isEmpty then pure .nothing else node true false fuel
      return item :: (← dashItems isBare fuel)
    else if isBare then return []
    else if ← accept isBlockEnd then return []
    else fail

/-- A key or a value of a block map, or nothing. -/
def blockPart : Nat → Parser Node
  | 0 => fail
  | fuel + 1 => do
    if ← sees endsBlockPart then return .nothing else node true true fuel

def blockEntries : Nat → Parser (List (Node × Node))
  | 0 => fail
  | fuel + 1 => do
    if ← accept isKey then
      let key ← blockPart fuel
      let value ← if ← accept isColon then blockPart fuel else pure .nothing
      return (key, value) :: (← blockEntries fuel)
    else if ← accept isBlockEnd then return []
    else fail

/-- A key or a value inside flow brackets, or nothing before what closes it. -/
def flowPart (isEnd : Token → Bool) : Nat → Parser Node
  | 0 => fail
  | fuel + 1 => do
    if ← sees fun t => isEnd t || isComma t then return .nothing else node false false fuel

/-- The value after a colon inside flow brackets. -/
def flowValue (isEnd : Token → Bool) : Nat → Parser Node
  | 0 => fail
  | fuel + 1 => do
    if ← accept isColon then flowPart isEnd fuel else return .nothing

/-- The items of a flow list; a pair among them is a map of one entry. -/
def flowItems (isFirst : Bool) : Nat → Parser (List Node)
  | 0 => fail
  | fuel + 1 => do
    if ← accept isListEnd then return []
    if !isFirst then
      if !(← accept isComma) then fail
    if ← accept isListEnd then return []
    if ← accept isKey then
      let key ← flowPart (fun t => isListEnd t || isColon t) fuel
      let value ← flowValue isListEnd fuel
      return .map none [(key, value)] :: (← flowItems false fuel)
    else
      let item ← node false false fuel
      return item :: (← flowItems false fuel)

/-- The entries of a flow map; a node without a colon is a key for nothing. -/
def flowEntries (isFirst : Bool) : Nat → Parser (List (Node × Node))
  | 0 => fail
  | fuel + 1 => do
    if ← accept isMapEnd then return []
    if !isFirst then
      if !(← accept isComma) then fail
    if ← accept isMapEnd then return []
    if ← accept isKey then
      let key ← flowPart (fun t => isMapEnd t || isColon t) fuel
      let value ← flowValue isMapEnd fuel
      return (key, value) :: (← flowEntries false fuel)
    else
      let key ← node false false fuel
      return (key, .nothing) :: (← flowEntries false fuel)

end

-- =========================================================== documents

/-- The handles every document knows. -/
def usualHandles : List (String × String) :=
  [("!", "!"), ("!!", Node.coreTag "")]

/-- The directives before a document: one version at most, each handle once. -/
def directives : Nat → Bool → List (String × String) → Parser Unit
  | 0, _, _ => fail
  | fuel + 1, hasVersion, handles => do
    match ← peek with
    | some (.directive d) =>
      advance
      match d with
      | .version major =>
        if hasVersion || major != 1 then fail
        directives fuel true handles
      | .tagHandle handle start =>
        if handles.any fun h => h.1 == handle then fail
        directives fuel hasVersion ((handle, start) :: handles)
      | .other => directives fuel hasVersion handles
    | _ => modify fun p => { p with handles := handles ++ usualHandles }

/-- Passes the marks that end a document. -/
def passEnds : Nat → Parser Unit
  | 0 => fail
  | fuel + 1 => do
    if let some .documentEnd ← peek then
      advance
      passEnds fuel

/-- The content of a document that starts with its mark. -/
def markedDocument (fuel : Nat) : Parser Node := do
  directives fuel false []
  match ← peek with
  | some .documentStart =>
    advance
    match ← peek with
    | none | some (.directive _) | some .documentStart | some .documentEnd => return .nothing
    | _ => node true false fuel
  | _ => fail

def document (fuel : Nat) : Parser Node := do
  let root ← match ← peek with
    | none => pure .nothing
    | some (.directive _) | some .documentStart => markedDocument fuel
    | _ => node true false fuel
  passEnds fuel
  if (← peek).isNone then return root else fail

end Parser

def root (text : List Char) : Outcome Node := do
  let ts ← tokens text
  let (node, _) ← (Parser.document (8 * ts.length + 16)).run ⟨ts, Parser.usualHandles, [], []⟩
  return node

end SourceAudit.Value.Yaml
