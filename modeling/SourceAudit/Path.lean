/-
Paths as texts: their parts, their size, and the name and ending of the last part.
-/
import SourceAudit.Text.Blank

namespace SourceAudit.Path

/-- Whether a path begins at the root. Two slashes in front count apart from one
or from three. -/
def root (path : String) : String :=
  match path.toList with
  | '/' :: '/' :: '/' :: _ => "/"
  | '/' :: '/' :: _ => "//"
  | '/' :: _ => "/"
  | _ => ""

/-- The named parts of a path: empty parts and single dots are left out. -/
def names (path : String) : List String :=
  (Text.splitOnChar '/' path).filter fun part => part != "" && part != "."

/-- The parts of a path, the root counting as one. -/
def parts (path : String) : List String :=
  let r := root path
  if r == "" then names path else r :: names path

/-- A path written in its plain form; the empty path is a dot. -/
def normal (path : String) : String :=
  let written := root path ++ "/".intercalate (names path)
  if written == "" then "." else written

/-- A path inside a folder; a path from the root stands for itself. -/
def join (folder inner : String) : String :=
  if root inner != "" then normal inner
  else if normal folder == "." then normal inner
  else if normal inner == "." then normal folder
  else if normal folder == root folder then normal folder ++ normal inner
  else normal folder ++ "/" ++ normal inner

-- ============================================================== limits

def nameLimit : Nat := 255

/-- The most bytes that a path may have, with the one that ends it. -/
def pathLimit : Nat := 4096

def bytesIn (name : String) : Nat :=
  name.toList.foldl (fun n c => n + c.utf8Size) 0

def isOverlong (name : String) : Bool :=
  nameLimit < bytesIn name

/-- The bytes of a path in its plain form, with one after each name. -/
def size (path : String) : Nat :=
  (names path).foldl (fun n name => n + bytesIn name + 1) (root path).length

-- ======================================================= the last part

def name (path : String) : String :=
  (names path).getLastD ""

def parent (path : String) : String :=
  match names path with
  | [] => normal path
  | ns => normal (root path ++ "/".intercalate (ns.take (ns.length - 1)))

/-- The ending of a name: from its last dot on, unless that is the first or the
last character. -/
def endingOf (n : String) : String :=
  let reversed := n.toList.reverse
  let tail := reversed.takeWhile (· != '.')
  match reversed.drop tail.length with
  | '.' :: before => if before.isEmpty || tail.isEmpty then "" else String.ofList ('.' :: tail.reverse)
  | _ => ""

def ending (path : String) : String :=
  endingOf (name path)

end SourceAudit.Path
