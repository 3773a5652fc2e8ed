/-
Outlines: what a quick reading of a source file gives. Of a Python file it is the
kinds of its statements, of a script file its lines.
-/
import SourceAudit.Code.Statement
import SourceAudit.FileTree
import SourceAudit.Text.Case

namespace SourceAudit

/-- The languages that can be outlined. -/
inductive Language where
  | python
  | javascript
  deriving DecidableEq, Repr

namespace Language

def endings : Language → List String
  | .python => [".py"]
  | .javascript => [".js", ".ts", ".jsx", ".tsx"]

/-- Whether a file is one of the language's, judged by its ending. -/
def supports (l : Language) (path : String) : Bool :=
  l.endings.contains (Text.lower (Path.ending path))

def ofPath? (path : String) : Option Language :=
  [python, javascript].find? fun l => l.supports path

def ofName? (name : String) : Option Language :=
  match name with
  | "python" => some .python
  | "javascript" => some .javascript
  | _ => none

end Language

/-- An outline of a source file. -/
inductive Outline where
  | module (statements : List Code.Tree)
  | script (content : String) (lines : List String)

namespace Outline

def toValue : Outline → Value
  | .module statements =>
    .record [("type", .text "module"), ("body", Value.texts (statements.map Code.Tree.title))]
  | .script content lines =>
    .record
      [("content", .text content), ("lines", Value.texts lines), ("type", .text "javascript")]

/-- The outline of a text; Python that cannot be parsed has none. -/
def ofText? (l : Language) (text : String) : Option Outline :=
  match l with
  | .python => (Code.parse? text.toList).map .module
  | .javascript => some (.script text (Text.splitLines text))

/-- The outline of a file. A file that is missing or not text has none; a folder
cannot be read at all. -/
def ofFile? (l : Language) (tree : FileTree) (path : String) : Outcome (Option Outline) :=
  match tree.readText (Path.normal path) with
  | .ok text => .ok (ofText? l text)
  | .error (.undecodable _) => .ok none
  | .error (.noFile _) => .ok none
  | .error fault => .error fault

end Outline

end SourceAudit
