/-! What a record asks of the format it is written in. One reader then serves every format. -/

namespace EventTally

class Document (V : Type) where
  /-- The text of a scalar. -/
  text? : V → Option String
  /-- The value, or none if it stands for the absence of one. -/
  present? : V → Option (Option V)
  /-- The items of a list. -/
  items? : V → Option (List V)
  /-- The entries of a map. A key may be repeated. -/
  entries? : V → Option (List (String × V))
  /-- The members of a record, which are among the names and not repeated. -/
  members? : List String → V → Option (List (String × V))

namespace Document

variable {V α : Type} [Document V]

/-- A list of records. -/
def list? (read : V → Option α) (v : V) : Option (List α) :=
  (items? v).bind (·.mapM read)

/-- A text or null. -/
def textOrNull? (v : V) : Option (Option String) := do
  match ← present? v with
  | none => return none
  | some v => return some (← text? v)

/-- A member that may be absent, and is then the default. -/
def member? (members : List (String × V)) (name : String) (absent : α) (read : V → Option α) :
    Option α :=
  match members.lookup name with
  | some v => read v
  | none => some absent

def required? (members : List (String × V)) (name : String) (read : V → Option α) : Option α :=
  (members.lookup name).bind read

end Document
end EventTally
