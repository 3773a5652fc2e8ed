/-
The auditor as a program: it reads the folder it stands in, runs the command line
on it, prints what was said and writes the files that were made.
-/
import SourceAudit.Command.Program
import Std.Time.DateTime.Timestamp

namespace SourceAudit.Main

/-- What stands below some entries of a folder, `depth` folders down at most. What
cannot be read is left out. -/
def gather (place : List String) (entries : Array IO.FS.DirEntry) :
    Nat → IO (List (List String × Entry))
  | 0 => return []
  | depth + 1 => do
    let mut found := []
    for e in entries do
      let inner := place ++ [e.fileName]
      let kind : Option IO.FS.FileType ←
        try pure (some (← e.path.symlinkMetadata).type) catch _ => pure none
      match kind with
      | some .dir =>
        let below ← try e.path.readDir catch _ => pure #[]
        found := found ++ (inner, .folder) :: (← gather inner below depth)
      | some .file =>
        let bytes ← try some <$> IO.FS.readBinFile e.path catch _ => pure none
        found := found ++ (bytes.map fun b => (inner, Entry.file b.toList)).toList
      | _ => pure ()
    return found

/-- The outside of a run on the command line: no tool of the scanners is at hand. -/
def outside : IO Outside := do
  let now ← Std.Time.Timestamp.now
  return {
    folder := (← IO.currentDir).toString
    now := .ofMicroseconds (now.toNanosecondsSinceUnixEpoch.val / 1000)
    environment := ⟨[]⟩
    version := (3, 11, 6)
    missing := ["uvicorn", "fastapi"]
    programs := []
    commands := []
    launch := .fails ""
    lasting := []
    interrupts := false
    interruptsSleep := false
    signals := false
    inputEnds := false
    web := none
    browserFailure := none
    serveFailure := none
    scanFailure := none
    refusal? := Report.Marking.usual.refusal?
    box := []
    full := false
    totals := none
    critical := none
    high := none }

/-- Writes what is in the second tree and not in the first. -/
def writeChanges (before after : FileTree) : IO Unit := do
  for (place, entry) in after.entries do
    let path := "/" ++ FileTree.written place
    match entry, before.at? place with
    | .folder, none => IO.FS.createDirAll path
    | .file bytes, some (.file old) =>
      if bytes != old then IO.FS.writeBinFile path ⟨bytes.toArray⟩
    | .file bytes, _ => IO.FS.writeBinFile path ⟨bytes.toArray⟩
    | _, _ => pure ()

end SourceAudit.Main

open SourceAudit in
/-- Runs the command line and ends with its code. -/
def main (args : List String) : IO UInt32 := do
  let here ← IO.currentDir
  let home := Path.names here.toString
  let entries ← Main.gather home (← here.readDir) 64
  let tree := { FileTree.empty with entries, home }
  let o ← Main.outside
  let (outcome, shell) := (Command.run "vibeauditor" args).runIn o (.start tree [] [])
  IO.print shell.transcript
  Main.writeChanges tree shell.tree
  match outcome with
  | .ok _ => return 0
  | .error (.exit code) => return code.toNat.toUInt32
  | .error fault =>
    IO.eprintln fault.message
    return 1
