import EventTally.Json.Basic
import EventTally.StringMap
import EventTally.Time.Rfc3339

/-! Reading the fields of a record from JSON. A record is an object, or an array of its fields in
their order; `known?` gives the members that the record knows, each at most once. Members of other
names are passed over. -/

namespace EventTally.Json

def noRepeats : List String → Bool
  | [] => true
  | name :: rest => !rest.contains name && noRepeats rest

/-- The members of an object that are among the names; none of these may be repeated. -/
def knownMembers? (names : List String) (members : List (String × Json)) :
    Option (List (String × Json)) :=
  let known := members.filter fun m => names.contains m.1
  if noRepeats (known.map (·.1)) then some known else none

def known? (names : List String) : Json → Option (List (String × Json))
  | obj members => knownMembers? names members
  | arr items => if items.length ≤ names.length then some (names.zip items) else none
  | _ => none

/-- A field that may be absent, and is then the default. -/
def field {α : Type} (fields : List (String × Json)) (name : String) (absent : α)
    (read : Json → Option α) : Option α :=
  match fields.lookup name with
  | some j => read j
  | none => some absent

def text (fields : List (String × Json)) (name : String) : Option String :=
  field fields name "" str?

/-- A value or null. -/
def optional {α : Type} (read : Json → Option α) : Json → Option (Option α)
  | null => some none
  | j => (read j).map some

def timestamp? (j : Json) : Option Timestamp := j.str?.bind Timestamp.read?

def between? (low high : Int) (j : Json) : Option Int :=
  j.int?.bind fun n => if low ≤ n && n ≤ high then some n else none

def int32? : Json → Option Int := between? (-0x80000000) 0x7FFFFFFF

def int64? : Json → Option Int := between? (-0x8000000000000000) 0x7FFFFFFFFFFFFFFF

def stringEntries? : List (String × Json) → Option (List (String × String))
  | [] => some []
  | (k, str v) :: rest => (stringEntries? rest).map ((k, v) :: ·)
  | _ => none

/-- A map of strings; a repeated key keeps its last value. -/
def stringMap? (j : Json) : Option (StringMap String) :=
  (j.obj?.bind stringEntries?).map StringMap.ofList

def ofTimestamp : Option Timestamp → Json
  | some t => str t.write
  | none => null

def ofStringMap (m : StringMap String) : Json :=
  obj (m.entries.map fun (k, v) => (k, str v))

end EventTally.Json
