/-
Detection of frameworks in a project.

Evidence is gathered step by step: package files, source files, the layout of
the project. The first piece of evidence enters a framework with a confidence of
its own; later pieces raise it, up to one.
-/
import SourceAudit.FileTree
import SourceAudit.Framework.Profile
import SourceAudit.Text.Search

namespace SourceAudit.Framework

/-- A framework that was detected. -/
structure Detected where
  name : String
  area : Area
  version : Option String := none
  confidence : Float
  /-- The files that gave it away, each once. -/
  files : List String

/-- The frameworks detected so far by their keys, in the order in which they were. -/
abbrev Detections := List (String × Detected)

def Detections.has (found : Detections) (key : String) : Bool :=
  found.any fun e => e.1 == key

/-- Enters a framework unless it has been detected. -/
def Detections.enter (found : Detections) (p : Profile) (confidence : Float)
    (files : List String) : Detections :=
  if found.has p.name then found
  else found ++ [(p.name, { name := p.name, area := p.area, confidence, files })]

/-- Raises the confidence of a framework, one at most, and adds a file to those
that gave it away. -/
def Detected.confirm (d : Detected) (rise : Float) (files : List String) : Detected :=
  let confidence := d.confidence + rise
  { d with
    confidence := if confidence < 1 then confidence else 1
    files := d.files ++ files.filter fun f => !d.files.contains f }

/-- A piece of evidence: enters the framework or raises its confidence. -/
def Detections.sight (found : Detections) (p : Profile) (first rise : Float)
    (files : List String) : Detections :=
  if found.has p.name then
    found.map fun e => if e.1 == p.name then (e.1, e.2.confirm rise files) else e
  else found.enter p first files

-- ======================================================= package files

def enterPackages (packages : List (String × String)) (isListed : String → Bool) (path : String)
    (found : Detections) : Detections :=
  packages.foldl
    (fun found (package, framework) =>
      match profile? framework with
      | some p => if isListed package then found.enter p 0.9 [path] else found
      | none => found)
    found

def checkRequirements (tree : FileTree) (path : String) (found : Detections) : Detections :=
  match tree.readTextLenient path with
  | .ok text =>
    let small := Text.lower text
    enterPackages requirementPackages (fun package => Text.contains package small)
      (Path.normal path) found
  | .error _ => found

/-- The key of an entry that is written as a pair: a list of two items, a text of
two characters or a record of two fields. `none` if it is no pair. -/
def pairKey? : Value → Option String
  | .list [.text key, _] => some key
  | .list [.list _, _] => none
  | .list [.record _, _] => none
  | .list [_, _] => some ""
  | .text s =>
    match s.toList with
    | [key, _] => some (String.singleton key)
    | _ => none
  | .record [(key, _), _] => some key
  | _ => none

/-- The names of the packages an entry of a package file lists, if it can be
taken for a mapping. -/
def packageNames? : Option Value → Option (List String)
  | none => some []
  | some (.record fields) => some (fields.map Prod.fst)
  | some (.list items) => items.mapM pairKey?
  | some (.text "") => some []
  | some _ => none

/-- The names of the packages a Node.js package file lists, if it can be read as
one. -/
def listedPackages? (tree : FileTree) (path : String) : Option (List String) :=
  match tree.readText path with
  | .error _ => none
  | .ok text =>
    match Value.ofJson text with
    | .ok (.record fields) => do
      let needed ← packageNames? (Value.lookup "dependencies" fields)
      let developed ← packageNames? (Value.lookup "devDependencies" fields)
      return needed ++ developed
    | _ => none

/-- Looks through a Node.js package file. -/
def checkPackageFile (tree : FileTree) (path : String) (found : Detections) : Detections :=
  match listedPackages? tree path with
  | some names => enterPackages nodePackages names.contains (Path.normal path) found
  | none => found

/-- Looks through a Python setup file: frameworks count by name wherever it lists
what it needs. -/
def checkSetup (tree : FileTree) (path : String) (found : Detections) : Detections :=
  match tree.readTextLenient path with
  | .ok text =>
    let small := Text.lower text
    if Text.contains "install_requires" small then
      profiles.foldl
        (fun found p =>
          if Text.contains p.name small then found.enter p 0.8 [Path.normal path] else found)
        found
    else found
  | .error _ => found

/-- Looks through the package files at the top of a project. -/
def checkPackageFiles (tree : FileTree) (target : String) (found : Detections) : Detections :=
  let check (name : String) (step : String → Detections → Detections) (found : Detections) :=
    let path := Path.join target name
    if tree.exists? path then step path found else found
  check "package.json" (checkPackageFile tree) <|
    check "setup.py" (checkSetup tree) <|
      check "requirements.txt" (checkRequirements tree) found

-- ============================================================= sources

def isScanned (path : String) : Bool :=
  scannedEndings.contains (Text.lower (Path.ending path))

/-- Looks for patterns in a text: each that occurs is a piece of evidence. -/
def checkText (path text : String) (found : Detections) : Detections :=
  readProfiles.foldl
    (fun found (p, patterns) =>
      patterns.foldl
        (fun found pattern =>
          if pattern.occursIn text then found.sight p 0.7 0.1 [path] else found)
        found)
    found

def checkFile (tree : FileTree) (path : String) (found : Detections) : Detections :=
  match tree.readTextLenient path with
  | .ok text => checkText (Path.normal path) text found
  | .error _ => found

-- ============================================================== layout

/-- Looks at the files and folders at the top of a project. -/
def checkLayout (tree : FileTree) (target : String) (found : Detections) : Detections :=
  if tree.isFolder target then
    profiles.foldl
      (fun found p =>
        let found := p.folders.foldl
          (fun found folder =>
            if tree.exists? (Path.join target folder) then found.sight p 0.6 0.1 [] else found)
          found
        p.files.foldl
          (fun found file =>
            let path := Path.join target file
            if tree.exists? path then found.sight p 0.8 0.2 [path] else found)
          found)
      found
  else found

-- =========================================================== detection

/-- The files of a target: itself, or all files below it. -/
def filesOf (tree : FileTree) (target : String) : List String :=
  if tree.isFile target then [Path.normal target] else tree.filesBelow target

def detect (tree : FileTree) (target : String) : Detections :=
  let packaged := checkPackageFiles tree target []
  let scanned := ((filesOf tree target).filter isScanned).foldl
    (fun found path => checkFile tree path found) packaged
  checkLayout tree target scanned

-- ============================================================= records

/-- A detected framework as a record, with the key it stands under. -/
def Detected.toValue (key : String) (d : Detected) : Value :=
  .record
    [("key", .text key), ("name", .text d.name), ("type", .text d.area.name),
     ("version", Value.ofText? d.version), ("confidence", .real d.confidence),
     ("files", Value.texts d.files)]

def Detections.toValue (found : Detections) : Value :=
  .list (found.map fun (key, d) => d.toValue key)

end SourceAudit.Framework
