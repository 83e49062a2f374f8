import EventTally.Record.Fields
import EventTally.Record.View

/-! The headers that all records of a cluster share: kind and version, object metadata, and
references to other objects. Each has its JSON form and its view, whose field names are those used
in paths. -/

namespace EventTally

open Json (text field)

structure TypeMeta where
  kind : String := ""
  apiVersion : String := ""
  deriving DecidableEq, Inhabited

namespace TypeMeta

def names : List String := ["kind", "apiVersion"]

def ofFields? (fs : List (String × Json)) : Option TypeMeta := do
  some { kind := ← text fs "kind", apiVersion := ← text fs "apiVersion" }

def ofJson? (j : Json) : Option TypeMeta := (j.known? names).bind ofFields?

def toMembers (m : TypeMeta) : List (String × Json) :=
  [("kind", .str m.kind), ("apiVersion", .str m.apiVersion)]

def fields (m : TypeMeta) : List (String × View) :=
  [("Kind", .text m.kind), ("APIVersion", .text m.apiVersion)]

end TypeMeta

structure ObjectMeta where
  name : String := ""
  generateName : String := ""
  namespace_ : String := ""
  uid : String := ""
  resourceVersion : String := ""
  generation : Int := 0
  creationTimestamp : Option Timestamp := none
  labels : StringMap String := .empty
  annotations : StringMap String := .empty
  deriving DecidableEq, Inhabited

namespace ObjectMeta

def names : List String :=
  ["name", "generateName", "namespace", "uid", "resourceVersion", "generation",
   "creationTimestamp", "labels", "annotations"]

def ofJson? (j : Json) : Option ObjectMeta := do
  let fs ← j.known? names
  some {
    name := ← text fs "name"
    generateName := ← text fs "generateName"
    namespace_ := ← text fs "namespace"
    uid := ← text fs "uid"
    resourceVersion := ← text fs "resourceVersion"
    generation := ← field fs "generation" 0 Json.int64?
    creationTimestamp := ← field fs "creationTimestamp" none (Json.optional Json.timestamp?)
    labels := ← field fs "labels" .empty Json.stringMap?
    annotations := ← field fs "annotations" .empty Json.stringMap? }

def toJson (m : ObjectMeta) : Json :=
  .obj [
    ("name", .str m.name),
    ("generateName", .str m.generateName),
    ("namespace", .str m.namespace_),
    ("uid", .str m.uid),
    ("resourceVersion", .str m.resourceVersion),
    ("generation", .int m.generation),
    ("creationTimestamp", Json.ofTimestamp m.creationTimestamp),
    ("labels", Json.ofStringMap m.labels),
    ("annotations", Json.ofStringMap m.annotations)]

def fields (m : ObjectMeta) : List (String × View) :=
  [("Name", .text m.name),
   ("GenerateName", .text m.generateName),
   ("Namespace", .text m.namespace_),
   ("UID", .text m.uid),
   ("ResourceVersion", .text m.resourceVersion),
   ("Generation", .other "int64"),
   ("CreationTimestamp", .other "time"),
   ("Labels", .ofEntries m.labels.entries),
   ("Annotations", .ofEntries m.annotations.entries)]

end ObjectMeta

structure ObjectReference where
  kind : String := ""
  namespace_ : String := ""
  name : String := ""
  uid : String := ""
  apiVersion : String := ""
  resourceVersion : String := ""
  fieldPath : String := ""
  deriving DecidableEq, Inhabited

namespace ObjectReference

def names : List String :=
  ["kind", "namespace", "name", "uid", "apiVersion", "resourceVersion", "fieldPath"]

def ofJson? (j : Json) : Option ObjectReference := do
  let fs ← j.known? names
  some {
    kind := ← text fs "kind"
    namespace_ := ← text fs "namespace"
    name := ← text fs "name"
    uid := ← text fs "uid"
    apiVersion := ← text fs "apiVersion"
    resourceVersion := ← text fs "resourceVersion"
    fieldPath := ← text fs "fieldPath" }

def toJson (r : ObjectReference) : Json :=
  .obj [
    ("kind", .str r.kind),
    ("namespace", .str r.namespace_),
    ("name", .str r.name),
    ("uid", .str r.uid),
    ("apiVersion", .str r.apiVersion),
    ("resourceVersion", .str r.resourceVersion),
    ("fieldPath", .str r.fieldPath)]

def view (r : ObjectReference) : View :=
  .record [
    ("Kind", .text r.kind),
    ("Namespace", .text r.namespace_),
    ("Name", .text r.name),
    ("UID", .text r.uid),
    ("APIVersion", .text r.apiVersion),
    ("ResourceVersion", .text r.resourceVersion),
    ("FieldPath", .text r.fieldPath)]

end ObjectReference

/-- The header of a list: the version of the cluster at which it was made. -/
structure ListMeta where
  resourceVersion : String := ""
  deriving DecidableEq, Inhabited

namespace ListMeta

def ofJson? (j : Json) : Option ListMeta := do
  let fs ← j.known? ["resourceVersion"]
  some { resourceVersion := ← text fs "resourceVersion" }

def toJson (m : ListMeta) : Json := .obj [("resourceVersion", .str m.resourceVersion)]

end ListMeta
end EventTally
