import EventTally.Regex.Pattern

/-! The room that an expression takes as an automaton over the octets of its text, counted before it
is built. Expressions beyond the limit are refused. -/

namespace EventTally.Regex

def stateRoom : Nat := 32

/-- The octet ranges, first octet first, whose products make up a range of codes that are written
with as many further octets. -/
def octetRanges : Nat → Nat → Nat → List (List (Nat × Nat))
  | 0, a, b => [[(a, b)]]
  | further + 1, a, b =>
    let unit := Nat.pow 64 (further + 1)
    let under (a b : Nat) :=
      (octetRanges further (a % unit) (b % unit)).map ((a / unit, a / unit) :: ·)
    if a / unit = b / unit then under a b
    else
      let (first, head) :=
        if a % unit = 0 then (a / unit, []) else (a / unit + 1, under a (a / unit * unit + unit - 1))
      let (stop, tail) :=
        if b % unit = unit - 1 then (b / unit + 1, []) else (b / unit, under (b / unit * unit) b)
      let middle :=
        if first < stop then [(first, stop - 1) :: List.replicate (further + 1) (0, 63)] else []
      head ++ middle ++ tail

/-- The ranges of codes with one number of octets each, and how many octets follow the first. -/
def octetWidths : List (Nat × Nat × Nat) :=
  [(0, 0x7F, 0), (0x80, 0x7FF, 1), (0x800, 0xD7FF, 2), (0xE000, 0xFFFF, 2), (0x10000, 0x10FFFF, 3)]

def commonLength [BEq α] : List α → List α → Nat
  | a :: as, b :: bs => if a == b then commonLength as bs + 1 else 0
  | _, _ => 0

/-- A set beyond ASCII: neighbours share the states of the octets that they begin with. -/
def octetRoom (s : CharSet) : Nat :=
  let paths := s.ranges.flatMap fun (a, b) =>
    octetWidths.flatMap fun (low, high, further) =>
      if max a low ≤ min b high then octetRanges further (max a low) (min b high) else []
  let states := (paths.zip ([] :: paths)).foldl
    (fun n (path, before) => n + (path.length - commonLength path before)) 0
  (states + 2) * stateRoom + paths.length * 4

def CharSet.room (s : CharSet) : Nat :=
  match s.ranges with
  | [] => stateRoom
  | [(a, b)] =>
    if a = b then
      stateRoom * (if a < 0x80 then 1 else if a < 0x800 then 2 else if a < 0x10000 then 3 else 4)
    else if s.isAscii then 2 * stateRoom + 8
    else octetRoom s
  | ranges => if s.isAscii then 2 * stateRoom + 8 * ranges.length else octetRoom s

def Pattern.room : Pattern → Nat
  | .empty | .look _ => stateRoom
  | .chars s => CharSet.room s
  | .group _ p => p.room + 2 * stateRoom
  | .seq p q => p.room + q.room
  | .alt p q => p.room + q.room + 2 * stateRoom
  | .repeat min none _ p => max min 1 * p.room + 2 * stateRoom
  | .repeat min (some n) _ p => n * p.room + (n - min) * (stateRoom + 8) + stateRoom

def roomLimit : Nat := 10 * 0x100000

end EventTally.Regex
