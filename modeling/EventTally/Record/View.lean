/-! Records as trees of named fields, and dotted paths into them. `resolve` walks a path segment by
segment; it succeeds only with the text at the end of the whole path. A field that a record does not
have at the moment is simply not in the tree. -/

namespace EventTally

inductive View where
  | text (s : String)
  | record (fields : List (String × View))
  /-- A value that is neither text nor has fields, with the name of its kind. -/
  | other (kind : String)

inductive PathError where
  | missingField (segment : String) (index : Nat)
  | notARecord (segment : String) (index : Nat)
  | notAString (path : String) (found : String)
  deriving DecidableEq

def PathError.message : PathError → String
  | missingField segment index => s!"extracting value failed at {segment}, index {index}"
  | notARecord segment index =>
    s!"extracting value failed at {segment}, index {index}: parent is not a record"
  | notAString path found => s!"value at {path} is not a string (found {found})"

namespace View

def kind : View → String
  | text _ => "string"
  | record _ => "record"
  | other kind => kind

/-- The fields of a map from strings to strings. -/
def ofEntries (entries : List (String × String)) : View :=
  record (entries.map fun (k, v) => (k, text v))

/-- Follows the segments, the first of which stands at `index`. -/
def walk (v : View) (index : Nat) : List String → Except PathError View
  | [] => .ok v
  | segment :: rest =>
    match v with
    | record fields =>
      match fields.lookup segment with
      | some field => walk field (index + 1) rest
      | none => .error (.missingField segment index)
    | _ => .error (.notARecord segment index)

/-- The segments of a dotted path; there is always one. -/
def segments (path : String) : List String :=
  (path.toList.splitOn '.').map String.ofList

def resolve (v : View) (path : String) : Except PathError String := do
  match ← v.walk 0 (segments path) with
  | text s => .ok s
  | found => .error (.notAString path found.kind)

end View
end EventTally
