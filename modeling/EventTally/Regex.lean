import EventTally.Regex.Reader
import EventTally.Regex.Room
import EventTally.Regex.Search

/-! Regular expressions: an expression is compiled once and then searched for in texts. -/

namespace EventTally

structure Regex where
  source : String
  program : Regex.Program

namespace Regex

/-- Fails if the text is no expression, or one that takes too much room. -/
def compile? (source : String) : Option Regex := do
  let pattern ← Pattern.ofTree? (← Reader.read? source)
  if pattern.room ≤ roomLimit then some ⟨source, .ofPattern pattern⟩ else none

/-- The number of groups, the whole match not counted. -/
def groups (r : Regex) : Nat := r.program.groups

/-- The groups of the first match, the whole match first. -/
def captures? (r : Regex) (text : String) : Option (List (Option String)) :=
  r.program.captures? text

theorem length_captures? {r : Regex} {text : String} {found : List (Option String)}
    (h : r.captures? text = some found) : found.length = r.groups + 1 := by
  obtain ⟨⟨start, t⟩, -, rfl⟩ := Option.map_eq_some_iff.1 h
  simp [groups]

end Regex
end EventTally
