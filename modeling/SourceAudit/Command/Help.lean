/-
What a command is: its name, what it is for and how it is used. Its help is laid
out in two columns of at most 78 characters together.
-/
import SourceAudit.Command.Option

namespace SourceAudit

/-- A command. -/
structure Command where
  call : String
  /-- What follows its options. -/
  tail : String
  summary : String
  /-- The options, but for the one that shows help. -/
  own : List Command.Opt

namespace Command

def options (c : Command) : List Opt := c.own ++ [.forHelp]

def usage (c : Command) : String :=
  "Usage: " ++ c.call ++ " [OPTIONS]" ++ c.tail ++ "\n"

def complaint (c : Command) (why : String) : String :=
  c.usage ++ "Try '" ++ c.call ++ " --help' for help.\n\nError: " ++ why ++ "\n"

def Opt.column (o : Opt) : String :=
  ", ".intercalate (o.short?.toList ++ [o.name]) ++ (o.kind.word.map fun w => " " ++ w).getD ""

/-- Rows in two columns. The first is as wide as its widest entry, 30 at most; where
an entry is wider, the second column starts on the next line. -/
def twoColumns (rows : List (String × String)) : String :=
  let widest := rows.foldl (fun n r => max n r.1.length) 0
  let width := min widest 30 + 2
  String.join (rows.map fun (left, right) =>
    let gap := if left.length + 2 ≤ width then Text.repeated (width - left.length) " "
      else "\n" ++ Text.repeated (width + 2) " "
    "  " ++ left ++ gap ++ right ++ "\n")

/-- A text, or the first of its words that fit into a width with dots in the place of
the rest. -/
def shortened (limit : Nat) (text : String) : String :=
  if text.length ≤ limit then text
  else
    let words := Text.splitOnChar ' ' text
    let fits := (List.range words.length).filter fun n =>
      (" ".intercalate (words.take n)).length + 3 ≤ limit
    " ".intercalate (words.take (fits.getLastD 0)) ++ "..."

def help (c : Command) : String :=
  c.usage ++ "\n  " ++ c.summary ++ "\n\nOptions:\n" ++
    twoColumns (c.options.map fun o => (o.column, o.help))

end Command

end SourceAudit
