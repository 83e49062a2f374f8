import EventTally.File.Entry

/-! Lines of a byte stream that arrives in chunks. `LineBuffer` holds the bytes after the last line
taken; `lines` is the whole stream's lines at once. A line ends with a newline, loses one carriage
return before it, and is dropped when nothing is left. -/

namespace EventTally

namespace Line

def newline : UInt8 := 10

def dropReturn (line : Bytes) : Bytes :=
  if line.getLast? = some 13 then line.dropLast else line

/-- The bytes before the first newline and those after it. -/
def cut? : Bytes → Option (Bytes × Bytes)
  | [] => none
  | b :: rest =>
    if b = newline then some ([], rest)
    else (cut? rest).map fun (line, after) => (b :: line, after)

theorem cut?_length {bytes line rest : Bytes} (h : cut? bytes = some (line, rest)) :
    rest.length < bytes.length := by
  induction bytes generalizing line with
  | nil => simp [cut?] at h
  | cons b more ih =>
    unfold cut? at h
    split at h
    · grind
    · obtain ⟨p, hp, e⟩ := Option.map_eq_some_iff.1 h
      have := @ih p.1 (by grind)
      grind

def lines (bytes : Bytes) : List Bytes :=
  match h : cut? bytes with
  | none => []
  | some (line, rest) =>
    have := cut?_length h
    let line := dropReturn line
    if line.isEmpty then lines rest else line :: lines rest
  termination_by bytes.length

end Line

structure LineBuffer where
  pending : Bytes := []

namespace LineBuffer

open Line

def push (b : LineBuffer) (chunk : Bytes) : LineBuffer := ⟨b.pending ++ chunk⟩

/-- The next line that is not blank, and the bytes behind it. Blank lines before the end of the
buffer are gone afterwards, also when no line was found. -/
def take (bytes : Bytes) : Option Bytes × Bytes :=
  match h : cut? bytes with
  | none => (none, bytes)
  | some (line, rest) =>
    have := cut?_length h
    let line := dropReturn line
    if line.isEmpty then take rest else (some line, rest)
  termination_by bytes.length

def next (b : LineBuffer) : Option Bytes × LineBuffer :=
  let (line, rest) := take b.pending
  (line, ⟨rest⟩)

/-- All complete lines, and what is left. -/
def drain (b : LineBuffer) : List Bytes × LineBuffer :=
  go (b.pending.length + 1) b
where
  go : Nat → LineBuffer → List Bytes × LineBuffer
  | 0, b => ([], b)
  | fuel + 1, b =>
    match b.next with
    | (none, b) => ([], b)
    | (some line, b) => let (rest, b) := go fuel b; (line :: rest, b)

def hasRemainder (b : LineBuffer) : Bool := !b.pending.isEmpty

end LineBuffer
end EventTally
