import EventTally.Text.Hex

/-! Sets of characters as ranges of code points. The ranges are kept in ascending order with a gap
between any two, whatever order they were given in. -/

namespace EventTally

structure CharSet where
  ranges : List (Nat × Nat)
  deriving DecidableEq, Inhabited

namespace CharSet

def lastCode : Nat := 0x10FFFF

/-- Widens a range by those after it that touch it, in a list ordered by first codes. -/
def joinTo (a b : Nat) : List (Nat × Nat) → List (Nat × Nat)
  | [] => [(a, b)]
  | (c, d) :: rest => if c ≤ b + 1 then joinTo a (max b d) rest else (a, b) :: joinTo c d rest

/-- Joins ranges that touch, in a list ordered by their first codes. -/
def join : List (Nat × Nat) → List (Nat × Nat)
  | [] => []
  | (a, b) :: rest => joinTo a b rest

def ofRanges (ranges : List (Nat × Nat)) : CharSet :=
  ⟨join (ranges.mergeSort fun x y => x.1 ≤ y.1)⟩

def empty : CharSet := ⟨[]⟩

def all : CharSet := ⟨[(0, lastCode)]⟩

def range (a b : Char) : CharSet := ⟨[(a.toNat, b.toNat)]⟩

def singleton (c : Char) : CharSet := range c c

def contains (s : CharSet) (c : Char) : Bool :=
  s.ranges.any fun (a, b) => a ≤ c.toNat && c.toNat ≤ b

def isEmpty (s : CharSet) : Bool := s.ranges.isEmpty

/-- What the ranges leave out, from a code on. -/
def gaps (first : Nat) : List (Nat × Nat) → List (Nat × Nat)
  | [] => if first ≤ lastCode then [(first, lastCode)] else []
  | (a, b) :: rest =>
    if first < a then (first, a - 1) :: gaps (b + 1) rest else gaps (b + 1) rest

def complement (s : CharSet) : CharSet := ⟨gaps 0 s.ranges⟩

def union (s t : CharSet) : CharSet := ofRanges (s.ranges ++ t.ranges)

def inter (s t : CharSet) : CharSet := (s.complement.union t.complement).complement

def diff (s t : CharSet) : CharSet := s.inter t.complement

def symmDiff (s t : CharSet) : CharSet := (s.diff t).union (t.diff s)

/-- Whether all members are below 128. -/
def isAscii (s : CharSet) : Bool := s.ranges.all fun (_, b) => b < 0x80

def hexValue (cs : List Char) : Nat := (Hex.number? cs).getD 0

/-- The blank-separated words of a table. -/
def words (table : String) : List (List Char) :=
  (table.toList.splitOnP Char.isWhitespace).filter (!·.isEmpty)

/-- The set that a table lists: codes and ranges of codes, in hexadecimal. -/
def ofTable (table : String) : CharSet :=
  ofRanges ((words table).map fun word =>
    match word.splitOn '-' with
    | [a, b] => (hexValue a, hexValue b)
    | _ => (hexValue word, hexValue word))

/-- The runs of a table that lists, in ascending order, where a value begins: `0 Cc 20 Zs …`. -/
def runs (table : String) : List (Nat × Nat × String) :=
  go (words table)
where
  go : List (List Char) → List (Nat × Nat × String)
  | start :: value :: rest =>
    let stop := match rest with
      | next :: _ => hexValue next - 1
      | [] => lastCode
    (hexValue start, stop, String.ofList value) :: go rest
  | _ => []

/-- The codes whose run has one of the values. -/
def ofRuns (runs : List (Nat × Nat × String)) (values : List String) : CharSet :=
  ofRanges ((runs.filter fun (_, _, v) => values.contains v).map fun (a, b, _) => (a, b))

end CharSet
end EventTally
