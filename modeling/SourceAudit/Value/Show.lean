/-
Values as people read them: texts in quotes inside lists and records and plain
on their own, numbers in their shortest form, words for nothing, yes and no.
-/
import SourceAudit.Number.Text
import SourceAudit.Text.Quote
import SourceAudit.Value.Basic

namespace SourceAudit.Value

mutual

def quoted : Value → String
  | .null => "None"
  | .bool b => if b then "True" else "False"
  | .int n => toString n
  | .real x => Number.shown.text x
  | .text s => Text.quoted s
  | .date iso => "datetime.date(" ++ iso ++ ")"
  | .list xs => "[" ++ ", ".intercalate (quotedItems xs) ++ "]"
  | .record fs => "\x7b" ++ ", ".intercalate (quotedFields fs) ++ "\x7d"

def quotedItems : List Value → List String
  | [] => []
  | x :: rest => quoted x :: quotedItems rest

def quotedFields : List (String × Value) → List String
  | [] => []
  | (key, x) :: rest => (Text.quoted key ++ ": " ++ quoted x) :: quotedFields rest

end

def shown : Value → String
  | .text s => s
  | .date iso => iso
  | v => v.quoted

end SourceAudit.Value
