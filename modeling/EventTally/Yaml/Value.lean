import EventTally.Document
import EventTally.Yaml.Node

/-! Nodes of a YAML document as values. A scalar is read as the kind of value that is asked for: any
scalar is a text, and a plain one without text is also an empty list or map. -/

namespace EventTally.Yaml

structure Value where
  node : Node
  /-- The nodes that aliases lead to. -/
  anchored : List (Nat × Node)

namespace Value

def of (v : Value) (n : Node) : Value := ⟨n, v.anchored⟩

/-- The node itself, or the one that it is an alias of. -/
def target (v : Value) : Node :=
  match v.node with
  | .alias id => (v.anchored.lookup id).getD .missing
  | n => n

def isEmptyPlain : Node → Bool
  | .scalar "" .plain _ => true
  | _ => false

def text? (v : Value) : Option String :=
  match v.target with
  | .scalar text _ _ => some text
  | _ => none

def nullWords : List String := ["~", "null", "Null", "NULL"]

/-- The kinds of scalars that have tags of their own. -/
def kindTag (kind : String) : String := "tag:yaml.org,2002:" ++ kind

/-- A plain scalar without text or with a word for null is absent, unless it has a tag; with the tag
of null it has to be such a word. -/
def present? (v : Value) : Option (Option Value) :=
  match v.target with
  | .scalar text .plain none =>
    if text.isEmpty || nullWords.contains text then some none else some (some v)
  | .scalar text .plain (some tag) =>
    if tag = kindTag "null" then (if nullWords.contains text then some none else none)
    else some (some v)
  | _ => some (some v)

/-- A plain scalar, or a literal one with the tag of booleans. -/
def bool? (v : Value) : Option Bool :=
  let read (text : String) :=
    if ["true", "True", "TRUE"].contains text then some true
    else if ["false", "False", "FALSE"].contains text then some false
    else none
  match v.target with
  | .scalar text .plain _ => read text
  | .scalar text .literal (some tag) => if tag = kindTag "bool" then read text else none
  | _ => none

def items? (v : Value) : Option (List Value) :=
  match v.target with
  | .seq items => some (items.map v.of)
  | n => if isEmptyPlain n then some [] else none

/-- The entries of a map, whose keys are scalars. -/
def entries? (v : Value) : Option (List (String × Value)) :=
  match v.target with
  | .map entries => entries.mapM fun (k, e) => return (← (v.of k).text?, v.of e)
  | n => if isEmptyPlain n then some [] else none

def distinct : List String → Bool
  | [] => true
  | name :: rest => !rest.contains name && distinct rest

/-- The entries of the names given, none of them repeated; other entries are passed over. -/
def known? (names : List String) (v : Value) : Option (List (String × Value)) := do
  let known := (← v.entries?).filter fun e => names.contains e.1
  if distinct (known.map (·.1)) then some known else none

/-- The same where no other entries may stand. -/
def members? (names : List String) (v : Value) : Option (List (String × Value)) := do
  if (← v.entries?).all fun e => names.contains e.1 then v.known? names else none

instance : Document Value where
  text? := text?
  present? := present?
  items? := items?
  entries? := entries?
  members? := members?

end Value

/-- The value of the only document of a text. -/
def read? (text : String) : Option Value :=
  (Tree.read? text).map fun t => ⟨t.root, t.anchored⟩

end EventTally.Yaml
