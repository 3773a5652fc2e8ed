/-
The sessions of a scan service: a session is made by an upload, followed by those
who asked for it, and taken away when it is cleaned up.
-/
import SourceAudit.Moment
import SourceAudit.Standard.Compliance
import SourceAudit.Framework.Detection

namespace SourceAudit

/-- What a scan gave. -/
structure ScanResult where
  findings : List Finding
  metadata : Value
  /-- What could not be scanned, each with the reason. -/
  errors : List (String × Value)
  /-- The frameworks that were detected, by name. -/
  frameworks : List (String × Value)
  compliance : Value

namespace ScanResult

def ofFindings (findings : List Finding) : ScanResult :=
  ⟨findings, .record [], [], [], .record []⟩

/-- A framework with all that is known of it. -/
def frameworkRecord (name area : String) (confidence files : Value)
    (version : Option String := none) : Value :=
  .record [("name", .text name), ("type", .text area), ("version", Value.ofText? version),
    ("confidence", confidence), ("files", files)]

def frameworksOf (found : Framework.Detections) : List (String × Value) :=
  found.map fun (key, d) =>
    (key, frameworkRecord d.name d.area.name (.real d.confidence) (Value.texts d.files) d.version)

def overview (r : ScanResult) : Value :=
  .record [("issues", Value.ofNat r.findings.length), ("metadata", r.metadata)]

end ScanResult

/-- A scan that was asked for. -/
structure Session where
  status : String
  folder : Option String
  start : Moment
  progress : Option Int
  /-- Who asked for it, where that is known. -/
  user : Option Value
  finish : Option Moment
  message : Option String
  result : Option ScanResult

namespace Session

def started (now : Moment) (folder : String) (user : Option Value) : Session where
  status := "started"
  folder := some folder
  start := now
  progress := some 0
  user := user
  finish := none
  message := none
  result := none

def completed (s : Session) (now : Moment) (r : ScanResult) : Session :=
  { s with status := "completed", finish := some now, result := some r, progress := some 100 }

def failed (s : Session) (now : Moment) (why : String) : Session :=
  { s with status := "failed", finish := some now, message := some why, progress := some 0 }

def toValue (s : Session) : Value :=
  let moment (m : Moment) : Value := .date m.iso
  .record (
    [("status", .text s.status), ("temp_dir", Value.ofText? s.folder),
     ("start_time", moment s.start)] ++
    (s.progress.map fun n => ("progress", Value.int n)).toList ++
    (s.user.map fun u => ("user_id", u)).toList ++
    (s.finish.map fun m => ("end_time", moment m)).toList ++
    (s.message.map fun t => ("message", Value.text t)).toList ++
    (s.result.map fun r => ("results", r.overview)).toList)

end Session

/-- Sessions by the ids of their scans. -/
abbrev Sessions := List (String × Session)

namespace Sessions

def get? (all : Sessions) (id : String) : Option Session :=
  (all.find? fun e => e.1 == id).map Prod.snd

/-- Enters a session, in the place of one with the same id. -/
def put (all : Sessions) (id : String) (s : Session) : Sessions :=
  if all.any fun e => e.1 == id then all.map fun e => if e.1 == id then (id, s) else e
  else all ++ [(id, s)]

def erase (all : Sessions) (id : String) : Sessions :=
  all.filter fun e => e.1 != id

def toValue (all : Sessions) : Value :=
  .record (all.map fun (id, s) => (id, s.toValue))

end Sessions

end SourceAudit
