/-
Values as JSON text. The compact form stands on one line with a blank after each
comma and colon; the indented form puts each item and field on a line of its
own. Characters beyond ASCII are written as escapes, those beyond the basic
plane as a pair of them.
-/
import SourceAudit.Number.Text
import SourceAudit.Text.Encoding
import SourceAudit.Value.Basic

namespace SourceAudit.Value.Json

def escapeUnit (n : Nat) : String :=
  "\\u" ++ Text.hex 4 n

def escapeChar (c : Char) : String :=
  if c == '"' then "\\\""
  else if c == '\\' then "\\\\"
  else if c == '\n' then "\\n"
  else if c == '\r' then "\\r"
  else if c == '\t' then "\\t"
  else if c.toNat == 0x08 then "\\b"
  else if c.toNat == 0x0C then "\\f"
  else if 0x20 ≤ c.toNat && c.toNat < 0x7F then c.toString
  else if c.toNat < 0x10000 then escapeUnit c.toNat
  else
    let n := c.toNat - 0x10000
    escapeUnit (0xD800 + n / 0x400) ++ escapeUnit (0xDC00 + n % 0x400)

def string (s : String) : String :=
  "\"" ++ String.join (s.toList.map escapeChar) ++ "\""

def scalar : Value → String
  | .null => "null"
  | .bool b => if b then "true" else "false"
  | .int n => toString n
  | .real x => Number.inJson.text x
  | .text s => string s
  | .date iso => string iso
  | .list _ => "[]"
  | .record _ => "\x7b\x7d"

mutual

def compact : Value → String
  | .list xs => "[" ++ ", ".intercalate (compactItems xs) ++ "]"
  | .record fs => "\x7b" ++ ", ".intercalate (compactFields fs) ++ "\x7d"
  | v => scalar v

def compactItems : List Value → List String
  | [] => []
  | x :: rest => compact x :: compactItems rest

def compactFields : List (String × Value) → List String
  | [] => []
  | (key, x) :: rest => (string key ++ ": " ++ compact x) :: compactFields rest

end

/-- A line feed and the blanks of an indentation level. -/
def newline (step level : Nat) : String :=
  "\n" ++ String.ofList (List.replicate (step * level) ' ')

def bracketed (step level : Nat) (opening closing : String) (items : List String) : String :=
  if items.isEmpty then opening ++ closing
  else
    opening ++ newline step (level + 1) ++
      ("," ++ newline step (level + 1)).intercalate items ++ newline step level ++ closing

mutual

/-- A value as JSON text with `step` blanks for each level. -/
def indentedAt (step : Nat) (level : Nat) : Value → String
  | .list xs => bracketed step level "[" "]" (indentedItems step (level + 1) xs)
  | .record fs => bracketed step level "\x7b" "\x7d" (indentedFields step (level + 1) fs)
  | v => scalar v

def indentedItems (step : Nat) (level : Nat) : List Value → List String
  | [] => []
  | x :: rest => indentedAt step level x :: indentedItems step level rest

def indentedFields (step : Nat) (level : Nat) : List (String × Value) → List String
  | [] => []
  | (key, x) :: rest =>
    (string key ++ ": " ++ indentedAt step level x) :: indentedFields step level rest

end

/-- A value as JSON text with two blanks for each level. -/
def indented (v : Value) : String :=
  indentedAt 2 0 v

end SourceAudit.Value.Json
