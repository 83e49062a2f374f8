import Std.Data.HashSet
import EventTally.Regex.Program

/-! Searching a text. The leftmost start wins, and among the matches there the one whose choices
come first. A pair of instruction and position that has failed once fails again, so no pair is tried
twice. -/

namespace EventTally.Regex

structure Thread where
  pc : Nat
  pos : Nat
  /-- Where groups start and stop, the latest first. -/
  marks : List (Nat × Nat)

def isWordAt (text : Array Char) (unicode : Bool) (i : Nat) : Bool :=
  match text[i]? with
  | some c => (Shorthand.chars unicode .word).contains c
  | none => false

/-- Whether the characters on both sides of a position make up the edge. -/
def WordEdge.holds (before after : Bool) : WordEdge → Bool
  | .boundary => before != after
  | .inner => before == after
  | .start => !before && after
  | .stop => before && !after
  | .startHalf => !before
  | .stopHalf => !after

def Look.holds (text : Array Char) (i : Nat) (l : Look) : Bool :=
  let before? := if i = 0 then none else text[i - 1]?
  let after? := text[i]?
  match l with
  | .textStart => before?.isNone
  | .textStop => after?.isNone
  | .lineStart => before?.isNone || before? == some '\n'
  | .lineStop => after?.isNone || after? == some '\n'
  | .crlfStart =>
    before?.isNone || before? == some '\n' || (before? == some '\r' && after? != some '\n')
  | .crlfStop =>
    after?.isNone || after? == some '\r' || (after? == some '\n' && before? != some '\r')
  | .word edge unicode =>
    edge.holds (i != 0 && isWordAt text unicode (i - 1)) (isWordAt text unicode i)

/-- The threads that an instruction goes on with, in the order in which they are tried. -/
def Instr.step (text : Array Char) (t : Thread) : Instr → List Thread
  | .chars s next =>
    match text[t.pos]? with
    | some c => if s.contains c then [⟨next, t.pos + 1, t.marks⟩] else []
    | none => []
  | .look l next => if l.holds text t.pos then [⟨next, t.pos, t.marks⟩] else []
  | .save slot next => [⟨next, t.pos, (slot, t.pos) :: t.marks⟩]
  | .split first second => [⟨first, t.pos, t.marks⟩, ⟨second, t.pos, t.marks⟩]
  | .done => []

abbrev Tried := Std.HashSet Nat

/-- Runs the threads of a stack until one is done. -/
def Program.run (p : Program) (text : Array Char) :
    Nat → Tried → List Thread → Tried × Option Thread
  | 0, tried, _ => (tried, none)
  | _ + 1, tried, [] => (tried, none)
  | fuel + 1, tried, t :: stack =>
    let key := t.pc * (text.size + 1) + t.pos
    if tried.contains key then p.run text fuel tried stack
    else
      match p.code[t.pc]? with
      | some .done => (tried, some t)
      | some i => p.run text fuel (tried.insert key) (i.step text t ++ stack)
      | none => p.run text fuel tried stack

/-- Each pair of an instruction and a position puts at most two threads on the stack. -/
def Program.fuel (p : Program) (text : Array Char) : Nat := 2 * p.code.size * (text.size + 1) + 2

/-- The first match from a start on, with the position where it starts. -/
def Program.searchFrom (p : Program) (text : Array Char) :
    List Nat → Tried → Option (Nat × Thread)
  | [], _ => none
  | start :: starts, tried =>
    match p.run text (p.fuel text) tried [⟨p.start, start, []⟩] with
    | (_, some t) => some (start, t)
    | (tried, none) => p.searchFrom text starts tried

/-- The part of the text between two positions. -/
def slice (text : Array Char) (start stop : Nat) : String :=
  String.ofList (text.extract start stop).toList

/-- What a group holds: the part of the text between its latest marks, if it took part in the
match. -/
def groupText (text : Array Char) (marks : List (Nat × Nat)) (index : Nat) : Option String :=
  match marks.lookup (2 * index), marks.lookup (2 * index + 1) with
  | some start, some stop => some (slice text start stop)
  | _, _ => none

/-- The groups of the first match, the whole match first. -/
def Program.captures? (p : Program) (s : String) : Option (List (Option String)) :=
  let text := s.toList.toArray
  (p.searchFrom text (List.range (text.size + 1)) {}).map fun (start, t) =>
    some (slice text start t.pos) ::
      (List.range p.groups).map fun i => groupText text t.marks (i + 1)

end EventTally.Regex
