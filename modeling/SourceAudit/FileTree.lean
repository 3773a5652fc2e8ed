/-
A system of files and folders, as a program sees it that runs in one of its folders.

A path is followed part by part, from the root or from the working folder: two dots lead
to the folder above, a file leads nowhere further. What a path means is decided once, in
`locate`; reading, writing and walking all go through it. Where outside its folder a program
may not write, and in which order a walk meets what it finds, is up to the system.
-/
import SourceAudit.Fault
import SourceAudit.Path

namespace SourceAudit

/-- What a name in a folder stands for. -/
inductive Entry where
  | file (bytes : List UInt8)
  | folder

/-- A system of files. -/
structure FileTree where
  /-- Files and folders by their place: the names that lead there from the root. The
  working folder and those above it need no entry. -/
  entries : List (List String × Entry)
  /-- The place of the working folder. -/
  home : List String
  /-- Why nothing can be written or made at a place outside the working folder under some
  path, if that is so. -/
  bars : List String → Option (String → Fault)
  /-- Whether a walk meets one path before another. -/
  meets : String → String → Bool

namespace FileTree

/-- A system with nothing in it but a working folder below the root; walks are in order. -/
def empty : FileTree :=
  ⟨[], ["work"], fun _ => none, fun a b => a ≤ b⟩

/-- A system with the usual folders, one of which takes nothing in. -/
def usual : FileTree :=
  { empty with
    entries := ["bin", "dev", "etc", "home", "proc", "root", "tmp", "usr", "var"].map fun name =>
      ([name], .folder)
    bars := fun place => if place.head? == some "proc" then some .noFile else none }

/-- What stands at a place; the working folder and those above it are always there. -/
def at? (t : FileTree) (place : List String) : Option Entry :=
  if place.isPrefixOf t.home then some .folder
  else (t.entries.find? fun e => e.1 == place).map Prod.snd

/-- Where following a path leads. -/
inductive Location where
  /-- Something that exists. -/
  | found (place : List String) (entry : Entry)
  /-- A free name in an existing folder. -/
  | free (place : List String)
  /-- Nowhere: a folder on the way is missing. -/
  | missing
  /-- Nowhere: a file is in the way. -/
  | blocked
  /-- Nowhere: the system takes no such path. -/
  | unfit (why : String → Fault)

def follow (t : FileTree) (place : List String) : List String → Location
  | [] =>
    match t.at? place with
    | some entry => .found place entry
    | none => .missing
  | name :: rest =>
    match t.at? place with
    | some .folder =>
      if name == ".." then follow t place.dropLast rest
      else if Path.isOverlong name then .unfit .nameTooLong
      else if (t.at? (place ++ [name])).isSome then follow t (place ++ [name]) rest
      else if rest.isEmpty then .free (place ++ [name])
      else .missing
    | some (.file _) => .blocked
    | none => .missing

/-- Why the system takes no such path, wherever it leads. -/
def unfit? (path : String) : Option (String → Fault) :=
  if (Path.names path).any fun n => n.toList.contains '\x00' then
    some fun _ => .badData "embedded null byte"
  else if Path.pathLimit < Path.size path then some .nameTooLong
  else none

/-- The place that a path sets out from. -/
def start (t : FileTree) (path : String) : List String :=
  if Path.root path == "" then t.home else []

def locate (t : FileTree) (path : String) : Location :=
  match unfit? path with
  | some why => .unfit why
  | none => t.follow (t.start path) (Path.names path)

def entry? (t : FileTree) (path : String) : Option Entry :=
  match t.locate path with
  | .found _ entry => some entry
  | _ => none

def exists? (t : FileTree) (path : String) : Bool :=
  (t.entry? path).isSome

def isFile (t : FileTree) (path : String) : Bool :=
  match t.entry? path with
  | some (.file _) => true
  | _ => false

def isFolder (t : FileTree) (path : String) : Bool :=
  match t.entry? path with
  | some .folder => true
  | _ => false

-- ============================================================= reading

def read (t : FileTree) (path : String) : Outcome (List UInt8) :=
  match t.locate path with
  | .found _ (.file bytes) => .ok bytes
  | .found _ .folder => .error (.isFolder path)
  | .blocked => .error (.notFolder path)
  | .unfit why => .error (why path)
  | _ => .error (.noFile path)

def readText (t : FileTree) (path : String) : Outcome String := do
  match Text.decode (← t.read path) with
  | .ok text => return text
  | .error why => .error (.undecodable why)

def readTextLenient (t : FileTree) (path : String) : Outcome String := do
  return Text.decodeLenient (← t.read path)

-- ============================================================= writing

def set (t : FileTree) (place : List String) (entry : Entry) : FileTree :=
  { t with entries := t.entries.filter (fun e => e.1 != place) ++ [(place, entry)] }

/-- Why nothing can be written or made at a place; the working folder is always open. -/
def bar? (t : FileTree) (place : List String) : Option (String → Fault) :=
  if t.home.isPrefixOf place then none else t.bars place

/-- Puts an entry at a place under a path, if the system lets it. -/
def put (t : FileTree) (path : String) (place : List String) (entry : Entry) :
    Outcome FileTree :=
  match t.bar? place with
  | some why => .error (why path)
  | none => .ok (t.set place entry)

def write (t : FileTree) (path : String) (bytes : List UInt8) : Outcome FileTree :=
  match t.locate path with
  | .found place (.file _) | .free place => t.put path place (.file bytes)
  | .found _ .folder => .error (.isFolder path)
  | .blocked => .error (.notFolder path)
  | .missing => .error (.noFile path)
  | .unfit why => .error (why path)

/-- Makes a folder in one that exists; a folder that is there already is fine. -/
def makeOne (t : FileTree) (path : String) : Outcome FileTree :=
  match t.locate path with
  | .found _ .folder => .ok t
  | .free place => t.put path place .folder
  | .found _ (.file _) => .error (.fileExists path)
  | .blocked => .error (.notFolder path)
  | .missing => .error (.noFile path)
  | .unfit why => .error (why path)

/-- Makes the folders that are missing where names lead from a place, as far as they can be
made. The names in `before` led there, after `root`. A file is in the way only where two dots
have led past it. -/
def makeWay (t : FileTree) (root : String) (place before : List String) :
    List String → FileTree × Outcome Unit
  | [] => (t, .ok ())
  | name :: rest =>
    let path := root ++ "/".intercalate (before ++ [name])
    if name == ".." then makeWay t root place.dropLast (before ++ [name]) rest
    else if Path.isOverlong name then (t, .error (.nameTooLong path))
    else
      match t.at? (place ++ [name]) with
      | some .folder => makeWay t root (place ++ [name]) (before ++ [name]) rest
      | some (.file _) => (t, .error (.fileExists path))
      | none =>
        match t.put path (place ++ [name]) .folder with
        | .ok t => makeWay t root (place ++ [name]) (before ++ [name]) rest
        | .error f => (t, .error f)

/-- Makes a folder and those on the way; a folder that is there already is fine. What has
been made stays when the rest cannot be made. -/
def makeFolder (t : FileTree) (path : String) : FileTree × Outcome Unit :=
  match t.locate path with
  | .found _ .folder => (t, .ok ())
  | .found _ (.file _) => (t, .error (.fileExists path))
  | .blocked => (t, .error (.notFolder path))
  | .unfit why => (t, .error (why path))
  | .free _ | .missing => t.makeWay (Path.root path) (t.start path) [] (Path.names path)

/-- Takes what stands at a path away, and all below it. -/
def remove (t : FileTree) (path : String) : FileTree :=
  match t.locate path with
  | .found place _ => { t with entries := t.entries.filter fun e => !place.isPrefixOf e.1 }
  | _ => t

/-- Makes the folders that lead to a place, outermost first. -/
def makeFolders (t : FileTree) (place : List String) : List String → FileTree
  | [] => t
  | name :: rest =>
    let inner := place ++ [name]
    let t := if (t.at? inner).isNone then t.set inner .folder else t
    makeFolders t inner rest

/-- A system with one more file below its working folder, the folders on the way made as
needed. -/
def withFile (t : FileTree) (path : String) (bytes : List UInt8) : FileTree :=
  let names := Path.names path
  (t.makeFolders t.home names.dropLast).set (t.home ++ names) (.file bytes)

/-- A system with one more folder below its working folder, those on the way made as
needed. -/
def withFolder (t : FileTree) (path : String) : FileTree :=
  t.makeFolders t.home (Path.names path)

-- ============================================================= walking

def written (place : List String) : String :=
  "/".intercalate place

/-- What stands below the working folder, by the names that lead there from it. -/
def own (t : FileTree) : List (List String × Entry) :=
  t.entries.filterMap fun e => (t.home.isPrefixOf? e.1).map fun inner => (inner, e.2)

/-- All paths below the working folder in order. -/
def paths (t : FileTree) : List String :=
  (t.own.map fun e => written e.1).mergeSort fun a b => a ≤ b

/-- The paths below a folder as a walk meets them, each with what stands there; a path that
is no folder has none. -/
def below (t : FileTree) (path : String) : List (String × Entry) :=
  match t.locate path with
  | .found place .folder =>
    let inner := t.entries.filter fun e => place.isPrefixOf e.1 && e.1.length != place.length
    (inner.map fun e => (Path.join path (written (e.1.drop place.length)), e.2)).mergeSort
      fun a b => t.meets a.1 b.1
  | _ => []

def filesBelow (t : FileTree) (path : String) : List String :=
  (t.below path).filterMap fun e =>
    match e.2 with
    | .file _ => some e.1
    | .folder => none

end FileTree

end SourceAudit
