import EventTally.Api.Client
import EventTally.Watch.Line

/-! The feed of changes: all events are listed, and then watched from the version of the list. A
watch that ends is taken up again from the last version seen; when the server no longer has that
version, the events are listed anew. Only missing rights end the feed. -/

namespace EventTally

/-- How a watch has ended. -/
inductive WatchEnd where
  | closed (lines : Nat)
  | expired
  | failed (e : ClusterError)
  deriving DecidableEq

/-- The status of a version that the server no longer has. -/
def goneStatus : Nat := 410

/-- A watch in progress. -/
structure Watch where
  /-- The last version seen. -/
  version : String
  buffer : LineBuffer := {}
  lines : Nat := 0
  /-- The changes to events so far. -/
  changes : List Change := []
  ended : Option WatchEnd := none

namespace Watch

def saw (w : Watch) (version : String) : Watch :=
  if version = "" then w else { w with version }

def change (w : Watch) (c : Change) (event : Event) : Watch :=
  { w with changes := w.changes ++ [c] }.saw event.metadata.resourceVersion

/-- Takes in a change; an error line ends the watch. -/
def accept (w : Watch) : Change → Watch
  | .added e => w.change (.added e) e
  | .modified e => w.change (.modified e) e
  | .deleted e => w.change (.deleted e) e
  | .bookmark m => w.saw m.resourceVersion
  | .failure status =>
    let ending := if status.code = goneStatus then WatchEnd.expired
      else .failed (.refused status.code status.message)
    { w with ended := some ending }

/-- Lines behind the end and lines that are no changes are passed over. -/
def line (w : Watch) (text : Bytes) : Watch :=
  if w.ended.isSome then w
  else
    let w := { w with lines := w.lines + 1 }
    ((Json.ofBytes? text).bind Change.ofDocument?).elim w w.accept

def chunk (w : Watch) (bytes : Bytes) : Watch :=
  let (found, buffer) := (w.buffer.push bytes).drain
  found.foldl line { w with buffer }

/-- The watch after a whole response. -/
def ofResponse (version : String) (r : Response) : Watch :=
  r.chunks.foldl chunk { version }

def result (w : Watch) (isComplete : Bool) : WatchEnd :=
  w.ended.getD (if isComplete then .closed w.lines else .failed .noAnswer)

end Watch

/-! ## The feed -/

/-- What is asked for next. -/
inductive Cursor where
  | list
  | watch (version : String)
  deriving DecidableEq

/-- What a response has led to: changes to events, and how to go on. -/
structure Progress where
  changes : List Change := []
  next : Except ClusterError Cursor
  /-- Whether to wait before the next request. -/
  waits : Bool := false

namespace Cursor

def request (c : Client) (namespace_ : Option String) : Cursor → Except ClusterError Request
  | list => c.listRequest namespace_
  | watch version => c.watchRequest namespace_ version

/-- After an error the same is asked for again, if that may help. -/
def again (cursor : Cursor) (e : ClusterError) : Progress :=
  if e.isFatal then { next := .error e } else { next := .ok cursor, waits := true }

/-- Goes on when the response of a watch has ended. -/
def afterWatch (w : Watch) (isComplete : Bool) : Progress :=
  let progress : Progress := match w.result isComplete with
    | .closed lines => { next := .ok (.watch w.version), waits := lines = 0 }
    | .expired => { next := .ok .list }
    | .failed e => (Cursor.watch w.version).again e
  { progress with changes := w.changes }

/-- Goes on with what came back. -/
def step (cursor : Cursor) (reached : Reached) : Progress :=
  match cursor with
  | list =>
    match reached.bind (Response.decode EventList.ofDocument?) with
    | .ok events =>
      { changes := events.items.map .added, next := .ok (.watch events.metadata.resourceVersion) }
    | .error e => again .list e
  | watch version =>
    match reached.bind Response.check with
    | .ok r => afterWatch (Watch.ofResponse version r) r.isComplete
    | .error (.refused status message) =>
      if status = goneStatus then { next := .ok .list }
      else again (.watch version) (.refused status message)
    | .error e => again (.watch version) e

end Cursor

/-- The feed so far: what it asks for next, or the error that ended it, and the changes to
events. -/
structure Feed where
  cursor : Except ClusterError Cursor := .ok .list
  changes : List Change := []

namespace Feed

/-- Takes in what the next request gave; a feed that has ended makes none. -/
def step (f : Feed) (reached : Reached) : Feed :=
  match f.cursor with
  | .ok cursor =>
    let p := cursor.step reached
    { cursor := p.next, changes := f.changes ++ p.changes }
  | .error _ => f

/-- The feed after its requests have been answered in turn. -/
def run (answers : List Reached) : Feed := answers.foldl step {}

end Feed
end EventTally
