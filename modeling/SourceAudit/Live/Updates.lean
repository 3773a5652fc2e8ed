/-
Live updates: clients follow scans and are told how they go.

A client may follow a scan several times and is then told several times. A client
whose line is closed is dropped when it is next told something. A message waits for
each client in turn, and meanwhile others may come and go.
-/
import SourceAudit.Moment
import SourceAudit.Value.Access
import SourceAudit.Value.Json.Writer

namespace SourceAudit

/-- The clients that follow one scan. -/
structure Following where
  scan : String
  /-- Which list of clients this is: a scan that is followed anew after all its
  followers left has another one. -/
  serial : Nat
  clients : List String

/-- Who follows which scan, how many lists of followers there were, whose line is
closed, and what was sent (the last message first). -/
structure Live where
  followings : List Following
  lists : Nat
  closed : List String
  sent : List (String × String)

namespace Live

def empty : Live := ⟨[], 0, [], []⟩

def following? (l : Live) (scan : String) : Option Following :=
  l.followings.find? fun f => f.scan == scan

def of (l : Live) (scan : String) : List String :=
  ((l.following? scan).map Following.clients).getD []

def isFollowed (l : Live) (scan : String) : Bool :=
  (l.following? scan).isSome

def revise (l : Live) (scan : String) (f : List String → List String) : Live :=
  { l with followings := l.followings.map fun g =>
      if g.scan == scan then { g with clients := f g.clients } else g }

def record (l : Live) (client message : String) : Live :=
  { l with sent := (client, message) :: l.sent }

/-- A client is put on the list of a scan, which is made if there is none. -/
def join (l : Live) (client scan : String) : Live :=
  if l.isFollowed scan then l.revise scan (· ++ [client])
  else
    { l with
      followings := l.followings ++ [⟨scan, l.lists, [client]⟩]
      lists := l.lists + 1 }

/-- A client wants to follow a scan: its line is opened, which the outside may
refuse, and then it is put on the list. -/
def greet (refusal : Option Fault) (client scan : String) : ExceptT Fault (StateM Live) Unit := do
  match refusal with
  | some fault => throw fault
  | none => modify (·.record client "accept")
  modify (·.join client scan)

def connect (l : Live) (client scan : String) : Live :=
  ((greet none client scan).run.run l).2

/-- A scan without followers is forgotten. -/
def forget (l : Live) (scan : String) : Live :=
  { l with followings := l.followings.filter fun g => g.scan != scan || !g.clients.isEmpty }

/-- A client follows a scan one time less. -/
def disconnect (l : Live) (client scan : String) : Live :=
  (l.revise scan fun clients => clients.erase client).forget scan

/-- Several clients follow a scan one time less, one after another. -/
def drop (l : Live) (scan : String) (clients : List String) : Live :=
  clients.foldl (fun l client => l.disconnect client scan) l

def close (l : Live) (client : String) : Live :=
  { l with closed := client :: l.closed }

def isClosed (l : Live) (client : String) : Bool :=
  l.closed.contains client

end Live

-- ========================================================== broadcasts

/-- An attempt to send a message to a client. -/
structure Sending where
  client : String
  text : String
  arrived : Bool
  deriving DecidableEq, Repr

/-- A message on its way to the followers of a scan. It is sent to one after the
other, by their places on the list; while it waits for a client, the list may
change. -/
structure Broadcast where
  scan : String
  /-- The list that is gone through. -/
  serial : Nat
  text : String
  /-- How many places of the list have been reached. -/
  reached : Nat
  /-- Whom the message is being sent to; nobody once it is over. -/
  current : Option String
  /-- What was tried, the last attempt first. -/
  tried : List Sending

/-- The clients that could not be reached, in order. -/
def Broadcast.lost (b : Broadcast) : List String :=
  (b.tried.reverse.filter fun s => !s.arrived).map Sending.client

namespace Live

/-- The client at a place of a list. A list that is no longer that of its scan is
empty. -/
def clientAt? (l : Live) (scan : String) (serial place : Nat) : Option String :=
  (l.following? scan).bind fun f => if f.serial == serial then f.clients[place]? else none

/-- A message sets out to the followers of a scan, if it has any. -/
def announce (l : Live) (scan text : String) : Option Broadcast :=
  (l.following? scan).map fun f => ⟨scan, f.serial, text, 1, f.clients[0]?, []⟩

/-- The attempt under way ends and the client at the next place is turned to.
After the last place those who could not be reached are dropped. -/
def proceed (l : Live) (b : Broadcast) (arrived : Bool) : Live × Broadcast :=
  match b.current with
  | none => (l, b)
  | some client =>
    let l := if arrived then l.record client b.text else l
    let b := { b with tried := ⟨client, b.text, arrived⟩ :: b.tried }
    match l.clientAt? b.scan b.serial b.reached with
    | some next => (l, { b with reached := b.reached + 1, current := some next })
    | none => (l.drop b.scan b.lost, { b with current := none })

/-- So many attempts of a message in a row. What becomes of an attempt depends on
its number and its client. -/
def proceedAll (arrives : Nat → String → Bool) : Nat → Live × Broadcast → Live × Broadcast
  | 0, s => s
  | attempts + 1, (l, b) =>
    match b.current with
    | none => (l, b)
    | some client => proceedAll arrives attempts (l.proceed b (arrives b.reached client))

/-- A message on its way goes to all followers without a pause. -/
def deliver (l : Live) (arrives : Nat → String → Bool) (b : Broadcast) : Live × Broadcast :=
  proceedAll arrives (l.of b.scan).length (l, b)

/-- Sends a message to all followers of a scan: what was tried, in order. -/
def broadcast (l : Live) (arrives : Nat → String → Bool) (scan text : String) :
    Live × List Sending :=
  match l.announce scan text with
  | none => (l, [])
  | some b =>
    let (l, b) := l.deliver arrives b
    (l, b.tried.reverse)

/-- A message reaches a client whose line is not closed. -/
def reaches (l : Live) (_ : Nat) (client : String) : Bool :=
  !l.isClosed client

/-- Tells all followers of a scan something and drops those whose line is closed. -/
def tell (l : Live) (scan message : String) : Live :=
  (l.broadcast l.reaches scan message).1

-- ============================================================ messages

def updateMessage (now : Moment) (scan status progress message : Value) : String :=
  Value.Json.compact (.record
    [("type", .text "scan_update"), ("scan_id", scan),
     ("data", .record
       [("status", status), ("progress", progress), ("message", message),
        ("timestamp", .text now.iso)])])

def issueMessage (now : Moment) (scan : String) (issue : Value) : String :=
  Value.Json.compact (.record
    [("type", .text "issue_found"), ("scan_id", .text scan),
     ("data", .record [("issue", issue), ("timestamp", .text now.iso)])])

/-- The answer to a sign of life. -/
def pongMessage (now : Moment) : String :=
  Value.Json.compact (.record [("type", .text "pong"), ("timestamp", .text now.iso)])

def update (l : Live) (now : Moment) (scan status progress message : Value) : Live :=
  match scan with
  | .text s => l.tell s (updateMessage now scan status progress message)
  | _ => l

def updateForm : Form where
  title := "WebSocketManager.send_scan_update"
  required := ["scan_id", "status", "progress"]
  optional := ["message"]

/-- An update with its entries in their order; the message may be left out. -/
def updateWith (l : Live) (now : Moment) (entries : List Value) : Outcome Live :=
  match entries with
  | [scan, status, progress] => .ok (l.update now scan status progress (.text ""))
  | [scan, status, progress, message] => .ok (l.update now scan status progress message)
  | few =>
    if few.length < 3 then
      .error (.missingEntries updateForm.title (updateForm.required.drop few.length))
    else .error (.helperMisuse ("WebSocketManager.send_scan_update() takes from 4 to 5 " ++
      "positional arguments but " ++ toString (few.length + 1) ++ " were given"))

def issueFound (l : Live) (now : Moment) (scan : String) (issue : Value) : Live :=
  l.tell scan (issueMessage now scan issue)

-- ======================================================== conversation

/-- Hears one message of a client: a sign of life is answered, text that is not
JSON is passed over. -/
def hear (l : Live) (now : Moment) (client incoming : String) : Outcome Live :=
  match Value.ofJson incoming with
  | .error (.misread _ _) => .ok l
  | .error fault => .error fault
  | .ok message => do
    if (← message.ask "type" .null).same (.text "ping") then
      if l.isClosed client then .error (.outside "closed")
      else return l.record client (pongMessage now)
    else return l

/-- A client follows a scan, says some things and leaves. If hearing it fails, it
does not get to leave. -/
def converse (l : Live) (now : Moment) (client scan : String) (incoming : List String) :
    Live × Option Fault :=
  let rec go (l : Live) : List String → Live × Option Fault
    | [] => (l.disconnect client scan, none)
    | text :: rest =>
      match l.hear now client text with
      | .ok l => go l rest
      | .error fault => (l, some fault)
  go (l.connect client scan) incoming

/-- What was sent, by client, in order. -/
def sentValue (l : Live) : Value :=
  let messages := l.sent.reverse
  let clients := (messages.map Prod.fst).eraseDups
  .record (clients.map fun c =>
    (c, Value.texts ((messages.filter fun m => m.1 == c).map Prod.snd)))

def followersValue (l : Live) : Value :=
  .record (l.followings.map fun f => (f.scan, Value.texts f.clients))

end Live

end SourceAudit
