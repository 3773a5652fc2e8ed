/-
Quoted texts. A text is shown between single quotes, or between double quotes
when it holds a single quote and no double one; characters that do not print
are shown by their code point.
-/
import SourceAudit.Text.Encoding
import SourceAudit.Text.Printable

namespace SourceAudit.Text

/-- How one character stands in a text quoted with `quote`. -/
def quoteChar (quote : Char) (c : Char) : String :=
  if c == quote || c == '\\' then String.ofList ['\\', c]
  else if c == '\n' then "\\n"
  else if c == '\r' then "\\r"
  else if c == '\t' then "\\t"
  else if isPrintable c then c.toString
  else if c.toNat < 0x100 then "\\x" ++ hex 2 c.toNat
  else if c.toNat < 0x10000 then "\\u" ++ hex 4 c.toNat
  else "\\U" ++ hex 8 c.toNat

def quoted (s : String) : String :=
  let cs := s.toList
  let quote := if cs.contains '\'' && !cs.contains '"' then '"' else '\''
  quote.toString ++ String.join (cs.map (quoteChar quote)) ++ quote.toString

end SourceAudit.Text
