/-! JSON values. Members of an object keep their order and may repeat a name: what a repeated name
means is for the reader of a record to say. A value that is well formed as text but stands for
nothing (half of a surrogate pair, bytes that are no characters, a number beyond the floats) is
`unreadable`: it can be skipped, and nothing else. -/

namespace EventTally

inductive Json where
  | null
  | bool (b : Bool)
  | int (n : Int)
  | real (text : String)
  | str (s : String)
  | arr (items : List Json)
  | obj (members : List (String × Json))
  | unreadable
  deriving Inhabited

namespace Json

/-- The deepest nesting of arrays and objects that a document may have. -/
def depthLimit : Nat := 127

mutual

/-- A value can be set aside for later when all its parts can be read and its containers nest no
deeper than `room`. -/
def storable (room : Nat) : Json → Bool
  | null | bool _ | int _ | real _ | str _ => true
  | arr items =>
    match room with
    | 0 => false
    | r + 1 => storableItems r items
  | obj members =>
    match room with
    | 0 => false
    | r + 1 => storableMembers r members
  | unreadable => false

def storableItems (room : Nat) : List Json → Bool
  | [] => true
  | j :: rest => storable room j && storableItems room rest

def storableMembers (room : Nat) : List (String × Json) → Bool
  | [] => true
  | (_, j) :: rest => storable room j && storableMembers room rest

end

def str? : Json → Option String
  | str s => some s
  | _ => none

def bool? : Json → Option Bool
  | bool b => some b
  | _ => none

def int? : Json → Option Int
  | int n => some n
  | _ => none

def arr? : Json → Option (List Json)
  | arr items => some items
  | _ => none

def obj? : Json → Option (List (String × Json))
  | obj members => some members
  | _ => none

/-- The value of the first member of that name. -/
def get? (j : Json) (name : String) : Option Json :=
  j.obj?.bind (·.lookup name)

end Json
end EventTally
