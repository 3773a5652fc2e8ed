/-
How the auditor is packed for distribution: its description, what it needs and the
packages it is made of.
-/
import SourceAudit.FileTree
import SourceAudit.Text.Search

namespace SourceAudit.Package

/-- What is needed, one to a line; blank lines and comments do not count. -/
def requirements (text : String) : List String :=
  (Text.readLines text).filterMap fun line =>
    let what := Text.trim line
    if what.isEmpty || Text.startsWith "#" line then none else some what

def isMark (place : List String) : Bool :=
  place.getLastD "" == "__init__.py"

/-- The places that are packages: those with a mark, all of whose outer folders have
one too, and no point in their names. -/
def places (tree : FileTree) : List (List String) :=
  let marked := tree.own.filterMap fun (place, entry) =>
    match entry with
    | .file _ => if isMark place && 1 < place.length then some place.dropLast else none
    | .folder => none
  marked.filter fun place =>
    (List.range place.length).all (fun i => marked.contains (place.take (i + 1))) &&
      place.all fun name => !Text.contains "." name

def packages (tree : FileTree) : List String :=
  ((places tree).map fun place => ".".intercalate place).mergeSort fun a b => decide (a ≤ b)

/-- What the package is good for, as the index classifies it. -/
def classifiers : List String :=
  ["Development Status :: 3 - Alpha", "Intended Audience :: Developers",
   "License :: OSI Approved :: MIT License", "Operating System :: OS Independent",
   "Programming Language :: Python :: 3", "Programming Language :: Python :: 3.8",
   "Programming Language :: Python :: 3.9", "Programming Language :: Python :: 3.10",
   "Programming Language :: Python :: 3.11"]

/-- The description of the package, from the files in its folder. -/
def description (tree : FileTree) : Outcome Value := do
  let about ← tree.readText "README.md"
  let needs := requirements (← tree.readText "requirements.txt")
  return .record
    [("name", .text "vibecodauditor"), ("version", .text "0.1.0"),
     ("author", .text "VibeCodeAuditor Team"),
     ("description", .text "A comprehensive code auditing tool for AI developers"),
     ("long_description", .text about), ("long_description_content_type", .text "text/markdown"),
     ("packages", Value.texts (packages tree)), ("classifiers", Value.texts classifiers),
     ("python_requires", .text ">=3.8"), ("install_requires", Value.texts needs),
     ("entry_points", .record
       [("console_scripts", Value.texts ["vibeauditor=vibeauditor.cli:main"])])]

end SourceAudit.Package
