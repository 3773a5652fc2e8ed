/-
Finding and replacing one text inside another.
-/
namespace SourceAudit.Text

def startsWith (start s : String) : Bool :=
  start.toList.isPrefixOf s.toList

def endsWith (ending s : String) : Bool :=
  ending.toList.isSuffixOf s.toList

def occursIn (needle : List Char) : List Char → Bool
  | [] => needle.isEmpty
  | c :: rest => needle.isPrefixOf (c :: rest) || occursIn needle rest

def contains (needle s : String) : Bool :=
  occursIn needle.toList s.toList

/-- Replaces the occurrences of a text that is not empty, from the left, without
looking again at what was put in. The characters `done` come first, last one
first; the counter skips what an occurrence covers. -/
def replaceFrom (needle image done : List Char) : Nat → List Char → List Char
  | _, [] => done.reverse
  | skip + 1, _ :: rest => replaceFrom needle image done skip rest
  | 0, c :: rest =>
    if needle.isPrefixOf (c :: rest) then
      replaceFrom needle image (image.reverse ++ done) (needle.length - 1) rest
    else replaceFrom needle image (c :: done) 0 rest

/-- Replaces every occurrence of `needle`, which is not empty, by `image`. -/
def replace (needle image s : String) : String :=
  String.ofList (replaceFrom needle.toList image.toList [] 0 s.toList)

/-- The pieces of a text between the occurrences of a separator that is not
empty; the counter skips what an occurrence covers. -/
def splitByFrom (sep : List Char) (piece : List Char) : Nat → List Char → List (List Char)
  | _, [] => [piece.reverse]
  | skip + 1, _ :: rest => splitByFrom sep piece skip rest
  | 0, c :: rest =>
    if sep.isPrefixOf (c :: rest) then piece.reverse :: splitByFrom sep [] (sep.length - 1) rest
    else splitByFrom sep (c :: piece) 0 rest

/-- The pieces of a text between the occurrences of a separator that is not empty. -/
def splitBy (sep s : String) : List String :=
  (splitByFrom sep.toList [] 0 s.toList).map String.ofList

def take (n : Nat) (s : String) : String :=
  String.ofList (s.toList.take n)

/-- A text put to the right of as many blanks as bring it to a width. -/
def padLeft (width : Nat) (s : String) : String :=
  String.ofList (List.replicate (width - s.length) ' ') ++ s

def repeated (n : Nat) (s : String) : String :=
  String.join (List.replicate n s)

end SourceAudit.Text
