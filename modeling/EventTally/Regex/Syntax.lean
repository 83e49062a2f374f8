/-! The syntax tree of a regular expression, before its flags are applied. -/

namespace EventTally.Regex

/-- What a setting such as `(?i-s)` says of one flag: nothing, on, or off. -/
abbrev Toggle := Option Bool

structure Toggles where
  ignoreCase : Toggle := none
  multiLine : Toggle := none
  dotAll : Toggle := none
  swapGreed : Toggle := none
  unicode : Toggle := none
  crlf : Toggle := none
  blanks : Toggle := none

inductive WordEdge where
  | boundary | inner | start | stop | startHalf | stopHalf
  deriving DecidableEq

inductive Anchor where
  /-- `^` -/
  | caret
  /-- `$` -/
  | dollar
  | textStart
  | textStop
  | word (edge : WordEdge)
  deriving DecidableEq

inductive Shorthand where
  | digit | space | word

inductive PropertyQuery where
  | name (name : String)
  | value (name value : String)

inductive SetOp where
  | inter | diff | symmDiff

/-- A class: an escape that stands for a set of characters, or a bracketed set and its parts. -/
inductive ClassTree where
  | char (c : Char)
  | range (a b : Char)
  | shorthand (kind : Shorthand) (negated : Bool)
  | property (query : PropertyQuery) (negated : Bool)
  /-- A named ASCII class such as `[:alpha:]`. -/
  | ascii (ranges : List (Nat × Nat)) (negated : Bool)
  | bracket (negated : Bool) (body : ClassTree)
  | union (items : List ClassTree)
  | combine (op : SetOp) (left right : ClassTree)

inductive Tree where
  | empty
  | toggles (flags : Toggles)
  /-- One character; `byte` if it was written as an escape of two hexadecimal digits. -/
  | char (c : Char) (byte : Bool)
  | dot
  | anchor (a : Anchor)
  | chars (c : ClassTree)
  | repeat (min : Nat) (max : Option Nat) (greedy : Bool) (body : Tree)
  | capture (index : Nat) (body : Tree)
  | group (flags : Toggles) (body : Tree)
  | seq (parts : List Tree)
  | alt (branches : List Tree)

def ClassTree.ofItems : List ClassTree → ClassTree
  | [item] => item
  | items => .union items

def Tree.ofParts : List Tree → Tree
  | [] => .empty
  | [part] => part
  | parts => .seq parts

def Tree.ofBranches : List Tree → Tree
  | [branch] => branch
  | branches => .alt branches

mutual

/-- How deep brackets, unions and set operations nest. -/
def ClassTree.depth : ClassTree → Nat
  | .bracket _ body => body.depth + 1
  | .union [] => 0
  | .union (item :: items) => max item.depth (ClassTree.depths items) + 1
  | .combine _ l r => max l.depth r.depth + 1
  | _ => 0

def ClassTree.depths : List ClassTree → Nat
  | [] => 0
  | item :: items => max item.depth (ClassTree.depths items)

end

mutual

/-- How deep repetitions, groups, sequences, alternations and brackets nest. -/
def Tree.depth : Tree → Nat
  | .chars c => c.depth
  | .repeat _ _ _ body | .capture _ body | .group _ body => body.depth + 1
  | .seq parts => Tree.depths parts + 1
  | .alt branches => Tree.depths branches + 1
  | _ => 0

def Tree.depths : List Tree → Nat
  | [] => 0
  | t :: ts => max t.depth (Tree.depths ts)

end

/-- No expression may nest deeper. -/
def depthLimit : Nat := 250

end EventTally.Regex
