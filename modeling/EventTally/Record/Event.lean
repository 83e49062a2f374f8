import EventTally.Record.Meta

/-! Events of a cluster. An event's header fields stand among its own members, so its other members
are set aside whole while it is read: they must be readable and nest no deeper than there is room
for. In paths the fields of both headers also stand for themselves. -/

namespace EventTally

open Json (text field)

structure EventSource where
  component : String := ""
  host : String := ""
  deriving DecidableEq, Inhabited

namespace EventSource

def ofJson? (j : Json) : Option EventSource := do
  let fs ← j.known? ["component", "host"]
  some { component := ← text fs "component", host := ← text fs "host" }

def toJson (s : EventSource) : Json :=
  .obj [("component", .str s.component), ("host", .str s.host)]

def view (s : EventSource) : View :=
  .record [("Component", .text s.component), ("Host", .text s.host)]

end EventSource

structure EventSeries where
  count : Int := 0
  lastObservedTime : Option Timestamp := none
  deriving DecidableEq, Inhabited

namespace EventSeries

def ofJson? (j : Json) : Option EventSeries := do
  let fs ← j.known? ["count", "lastObservedTime"]
  some {
    count := ← field fs "count" 0 Json.int32?
    lastObservedTime := ← field fs "lastObservedTime" none (Json.optional Json.timestamp?) }

def toJson (s : EventSeries) : Json :=
  .obj [("count", .int s.count), ("lastObservedTime", Json.ofTimestamp s.lastObservedTime)]

def view : View := .record [("Count", .other "int32"), ("LastObservedTime", .other "time")]

end EventSeries

structure Event where
  typeMeta : TypeMeta := {}
  metadata : ObjectMeta := {}
  involvedObject : ObjectReference := {}
  reason : String := ""
  message : String := ""
  source : EventSource := {}
  firstTimestamp : Option Timestamp := none
  lastTimestamp : Option Timestamp := none
  count : Int := 0
  type : String := ""
  eventTime : Option Timestamp := none
  series : Option EventSeries := none
  action : String := ""
  related : Option ObjectReference := none
  reportingController : String := ""
  reportingInstance : String := ""
  deriving DecidableEq, Inhabited

/-- The members of an object that has its header among them: the known ones, if the others can be
set aside within `room`. -/
def Json.headed? (names : List String) (room : Nat) : Json → Option (List (String × Json))
  | .obj members =>
    if members.all fun m => names.contains m.1 || m.2.storable room then
      Json.knownMembers? (TypeMeta.names ++ names) members
    else none
  | _ => none

namespace Event

def names : List String :=
  ["metadata", "involvedObject", "reason", "message", "source", "firstTimestamp",
   "lastTimestamp", "count", "type", "eventTime", "series", "action", "related",
   "reportingComponent", "reportingInstance"]

/-- Reads an event whose members may nest `room` containers. -/
def ofJson? (room : Nat) (j : Json) : Option Event := do
  let fs ← j.headed? names room
  some {
    typeMeta := ← TypeMeta.ofFields? fs
    metadata := ← field fs "metadata" {} ObjectMeta.ofJson?
    involvedObject := ← field fs "involvedObject" {} ObjectReference.ofJson?
    reason := ← text fs "reason"
    message := ← text fs "message"
    source := ← field fs "source" {} EventSource.ofJson?
    firstTimestamp := ← field fs "firstTimestamp" none (Json.optional Json.timestamp?)
    lastTimestamp := ← field fs "lastTimestamp" none (Json.optional Json.timestamp?)
    count := ← field fs "count" 0 Json.int32?
    type := ← text fs "type"
    eventTime := ← field fs "eventTime" none (Json.optional Json.timestamp?)
    series := ← field fs "series" none (Json.optional EventSeries.ofJson?)
    action := ← text fs "action"
    related := ← field fs "related" none (Json.optional ObjectReference.ofJson?)
    reportingController := ← text fs "reportingComponent"
    reportingInstance := ← text fs "reportingInstance" }

/-- Reads a document that is one event. -/
def ofDocument? (j : Json) : Option Event := ofJson? (Json.depthLimit - 1) j

def toJson (e : Event) : Json :=
  .obj (e.typeMeta.toMembers ++ [
    ("metadata", e.metadata.toJson),
    ("involvedObject", e.involvedObject.toJson),
    ("reason", .str e.reason),
    ("message", .str e.message),
    ("source", e.source.toJson),
    ("firstTimestamp", Json.ofTimestamp e.firstTimestamp),
    ("lastTimestamp", Json.ofTimestamp e.lastTimestamp),
    ("count", .int e.count),
    ("type", .str e.type),
    ("eventTime", Json.ofTimestamp e.eventTime),
    ("series", e.series.elim .null EventSeries.toJson),
    ("action", .str e.action),
    ("related", e.related.elim .null ObjectReference.toJson),
    ("reportingComponent", .str e.reportingController),
    ("reportingInstance", .str e.reportingInstance)])

def view (e : Event) : View :=
  .record ([
    ("TypeMeta", .record e.typeMeta.fields),
    ("ObjectMeta", .record e.metadata.fields),
    ("InvolvedObject", e.involvedObject.view),
    ("Reason", .text e.reason),
    ("Message", .text e.message),
    ("Source", e.source.view),
    ("FirstTimestamp", .other "time"),
    ("LastTimestamp", .other "time"),
    ("EventTime", .other "time"),
    ("Count", .other "int32"),
    ("Type", .text e.type),
    ("Action", .text e.action),
    ("ReportingController", .text e.reportingController),
    ("ReportingInstance", .text e.reportingInstance)]
    ++ (e.series.elim [] fun _ => [("Series", EventSeries.view)])
    ++ (e.related.elim [] fun r => [("Related", r.view)])
    ++ e.typeMeta.fields ++ e.metadata.fields)

/-- When the event was last seen: its last timestamp, else its series', else its event time. -/
def lastObserved (e : Event) : Option Timestamp :=
  e.lastTimestamp <|> (e.series.bind (·.lastObservedTime)) <|> e.eventTime

end Event

/-- The answer to a request for all events. -/
structure EventList where
  metadata : ListMeta := {}
  items : List Event := []
  deriving DecidableEq, Inhabited

namespace EventList

def ofDocument? (j : Json) : Option EventList := do
  let fs ← j.known? ["metadata", "items"]
  some {
    metadata := ← field fs "metadata" {} ListMeta.ofJson?
    items := ← field fs "items" [] fun j =>
      j.arr?.bind fun items => items.mapM (Event.ofJson? (Json.depthLimit - 3)) }

def toJson (l : EventList) : Json :=
  .obj [("metadata", l.metadata.toJson), ("items", .arr (l.items.map Event.toJson))]

end EventList
end EventTally
