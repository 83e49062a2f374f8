import EventTally.Document
import EventTally.Json.Printer
import EventTally.Record.Fields

/-! Rules as they are written down: each defines a metric by the matchers that an event must pass
and the labels to take from it. No member may have a name other than those given here. -/

namespace EventTally

structure Matcher where
  /-- The path of the field to match. -/
  key : String
  expr : Option String := none
  deriving DecidableEq

structure Definition where
  name : String
  matchers : List Matcher := []
  /-- The specs of the labels. -/
  labels : StringMap String := .empty
  deriving DecidableEq

/-- An expression without text counts as none. -/
def Matcher.expression (m : Matcher) : Option String := m.expr.filter (· != "")

section

variable {V : Type} [Document V]

open Document

def textEntries? : List (String × V) → Option (List (String × String))
  | [] => some []
  | (k, v) :: rest => do return (k, ← text? v) :: (← textEntries? rest)

/-- A map of texts; a repeated key keeps its last value. -/
def textMap? (v : V) : Option (StringMap String) :=
  ((entries? v).bind textEntries?).map StringMap.ofList

def Matcher.read? (v : V) : Option Matcher := do
  let ms ← members? ["key", "expr"] v
  return ⟨← required? ms "key" text?, ← member? ms "expr" none textOrNull?⟩

def Definition.read? (v : V) : Option Definition := do
  let ms ← members? ["name", "event_matcher", "labels"] v
  return ⟨← required? ms "name" text?, ← member? ms "event_matcher" [] (list? Matcher.read?),
    ← member? ms "labels" .empty textMap?⟩

/-- The definitions of a document. -/
def Definition.readAll? (v : V) : Option (List Definition) := do
  let ms ← members? ["metrics"] v
  member? ms "metrics" [] (list? Definition.read?)

end

/-! ## In JSON -/

/-- The members of a record that must all be among the names. -/
def Json.strict? (names : List String) : Json → Option (List (String × Json))
  | .obj members =>
    if members.all (fun m => names.contains m.1) then Json.knownMembers? names members else none
  | j => j.known? names

instance : Document Json where
  text? := Json.str?
  present? j := match j with
    | .null => some none
    | j => some (some j)
  items? := Json.arr?
  entries? := Json.obj?
  members? := Json.strict?

def Matcher.toJson (m : Matcher) : Json :=
  .obj (("key", .str m.key) :: (m.expr.map fun e => ("expr", Json.str e)).toList)

def Definition.toJson (d : Definition) : Json :=
  .obj [("name", .str d.name), ("event_matcher", .arr (d.matchers.map Matcher.toJson)),
    ("labels", Json.ofStringMap d.labels)]

def Definition.allToJson (ds : List Definition) : Json :=
  .obj [("metrics", .arr (ds.map Definition.toJson))]

end EventTally
