import EventTally.Record.Event

/-! What a watch reports, one document a line: an event was added, modified or deleted, the
cluster's version moved on (a bookmark), or the server gives up with a status. -/

namespace EventTally

open Json (text field)

/-- The status that a server answers with when a request fails. -/
structure ApiStatus where
  code : Nat := 0
  reason : String := ""
  message : String := ""
  deriving DecidableEq, Inhabited

namespace ApiStatus

def ofJson? (j : Json) : Option ApiStatus := do
  let fs ← j.known? ["code", "reason", "message"]
  some {
    code := ← field fs "code" 0 fun j => (j.between? 0 65535).map Int.toNat
    reason := ← text fs "reason"
    message := ← text fs "message" }

def toJson (s : ApiStatus) : Json :=
  .obj [("code", .int s.code), ("reason", .str s.reason), ("message", .str s.message)]

end ApiStatus

inductive Change where
  | added (event : Event)
  | modified (event : Event)
  | deleted (event : Event)
  | bookmark (metadata : ObjectMeta)
  | failure (status : ApiStatus)
  deriving DecidableEq

namespace Change

inductive Tag where
  | added | modified | deleted | bookmark | error
  deriving DecidableEq

def Tag.ofString? : String → Option Tag
  | "ADDED" => some added
  | "MODIFIED" => some modified
  | "DELETED" => some deleted
  | "BOOKMARK" => some bookmark
  | "ERROR" => some error
  | _ => none

/-- A tag is its word, or an object that has the word as its only member, with null. -/
def tag? : Json → Option Tag
  | .str word => Tag.ofString? word
  | .obj [(word, .null)] => Tag.ofString? word
  | _ => none

/-- Reads the object of a change whose members may nest `room` containers. -/
def body? (room : Nat) (j : Json) : Tag → Option Change
  | .added => (Event.ofJson? room j).map added
  | .modified => (Event.ofJson? room j).map modified
  | .deleted => (Event.ofJson? room j).map deleted
  | .bookmark => do
    let fs ← j.known? ["metadata"]
    some (bookmark (← field fs "metadata" {} ObjectMeta.ofJson?))
  | .error => (ApiStatus.ofJson? j).map failure

def room : Nat := Json.depthLimit - 1

/-- Reads a document that is one change. An object that stands before its tag is set aside until the
tag is known, so all of it must be readable. -/
def ofDocument? : Json → Option Change
  | .obj members => do
    let known ← Json.knownMembers? ["type", "object"] members
    match known with
    | [("type", t), ("object", j)] => body? (room - 1) j (← tag? t)
    | [("object", j), ("type", t)] =>
      if j.storable room then body? (room - 1) j (← tag? t) else none
    | _ => none
  | .arr [t, j] => do body? (room - 1) j (← tag? t)
  | _ => none

end Change
end EventTally
