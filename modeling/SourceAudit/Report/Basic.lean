/-
What a report is made of.

The totals of an audit are counted elsewhere; a report without them can show
findings, but no overview.
-/
import SourceAudit.Finding.Basic
import SourceAudit.Framework.Profile
import SourceAudit.Value.Access

namespace SourceAudit

/-- A framework as a report names it. -/
structure FrameworkLine where
  name : String
  area : String
  confidence : Value
  files : Value

namespace FrameworkLine

/-- Puts a line into the place of one of the same name, or at the end. -/
def enter (l : FrameworkLine) : List FrameworkLine → List FrameworkLine
  | [] => [l]
  | d :: rest => if d.name == l.name then l :: rest else d :: enter l rest

/-- The line of a list of name, area, confidence and files. -/
def ofItem (v : Value) : Outcome FrameworkLine :=
  let part (n : Nat) : Value := (v.items[n]?).getD .null
  let area := part 1
  if Framework.Area.all.any fun a => area.same (.text a.name) then
    .ok ⟨(part 0).shown, area.shown, part 2, part 3⟩
  else .error (.badChoice area.quoted "FrameworkType")

/-- The lines of lists of name, area, confidence and files, one for each name. -/
def ofItems (items : List Value) : Outcome (List FrameworkLine) := do
  return (← items.mapM ofItem).foldl (fun done l => l.enter done) []

end FrameworkLine

/-- What a report is made of. -/
structure ReportData where
  findings : List Finding
  /-- The files that could not be scanned, each with the reason. -/
  errors : List (String × Value)
  totals : Option Value
  frameworks : List FrameworkLine
  /-- The findings for each standard, counted. -/
  compliance : List (String × Value)

namespace ReportData

/-- Something asked of the results of an audit, which they have to be able to tell. -/
def told (member : String) : Option Value → Outcome Value
  | some v => .ok v
  | none => .error (.noMember "AuditResults" member)

def theTotals (r : ReportData) : Outcome Value :=
  told "get_summary" r.totals

end ReportData

def isAbove (bound : Nat) (v : Value) : Outcome Bool :=
  match v with
  | .real x => .ok (decide (Float.ofNat bound < x))
  | v =>
    match v.asWhole? with
    | some n => .ok (decide ((bound : Int) < n))
    | none => .error (.noOrder ">" v.kind "int")

end SourceAudit
