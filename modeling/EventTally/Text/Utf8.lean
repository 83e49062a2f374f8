/-! Characters of a byte stream. `scan` keeps every byte: a byte that belongs to no character is a
`none`, so that a reader may still skip over it. `decode?` accepts exactly the streams without such
bytes, and `decodeLossy` writes one replacement character for each maximal broken sequence. -/

namespace EventTally.Utf8

def isTail (b : UInt8) : Bool := 0x80 ≤ b && b ≤ 0xBF

/-- The bounds on the second byte after a first byte of a longer sequence, and the number of bytes
that follow the first. -/
def lead (a : UInt8) : Option (UInt8 × UInt8 × Nat) :=
  if 0xC2 ≤ a && a ≤ 0xDF then some (0x80, 0xBF, 1)
  else if a == 0xE0 then some (0xA0, 0xBF, 2)
  else if a == 0xED then some (0x80, 0x9F, 2)
  else if 0xE1 ≤ a && a ≤ 0xEF then some (0x80, 0xBF, 2)
  else if a == 0xF0 then some (0x90, 0xBF, 3)
  else if 0xF1 ≤ a && a ≤ 0xF3 then some (0x80, 0xBF, 3)
  else if a == 0xF4 then some (0x80, 0x8F, 3)
  else none

/-- The low six bits of a continuation byte. -/
def low (b : UInt8) : Nat := b.toNat % 64

/-- The character that starts with `a`, and how many of the next bytes belong to it. -/
def first (a : UInt8) (rest : List UInt8) : Option (Char × Nat) :=
  if a < 0x80 then some (Char.ofNat a.toNat, 0) else
  match lead a with
  | none => none
  | some (lo, hi, n) =>
    match n, rest with
    | 1, b :: _ =>
      if lo ≤ b && b ≤ hi then some (Char.ofNat (a.toNat % 32 * 64 + low b), 1) else none
    | 2, b :: c :: _ =>
      if lo ≤ b && b ≤ hi && isTail c then
        some (Char.ofNat ((a.toNat % 16 * 64 + low b) * 64 + low c), 2)
      else none
    | 3, b :: c :: d :: _ =>
      if lo ≤ b && b ≤ hi && isTail c && isTail d then
        some (Char.ofNat (((a.toNat % 8 * 64 + low b) * 64 + low c) * 64 + low d), 3)
      else none
    | _, _ => none

/-- How many of the bytes after `a` still belong to a sequence that `first` refuses. -/
def broken (a : UInt8) (rest : List UInt8) : Nat :=
  match lead a with
  | none => 0
  | some (lo, hi, n) =>
    match rest with
    | [] => 0
    | b :: more =>
      if lo ≤ b && b ≤ hi then 1 + ((more.take (n - 2)).takeWhile isTail).length else 0

def scan : List UInt8 → List (Option Char)
  | [] => []
  | a :: rest =>
    match first a rest with
    | some (c, n) => some c :: scan (rest.drop n)
    | none => none :: scan rest
  termination_by bs => bs.length
  decreasing_by all_goals (simp only [List.length_cons, List.length_drop]; omega)

def decode? (bytes : List UInt8) : Option String :=
  ((scan bytes).mapM id).map String.ofList

def lossyChars : List UInt8 → List Char
  | [] => []
  | a :: rest =>
    match first a rest with
    | some (c, n) => c :: lossyChars (rest.drop n)
    | none => Char.ofNat 0xFFFD :: lossyChars (rest.drop (broken a rest))
  termination_by bs => bs.length
  decreasing_by all_goals (simp only [List.length_cons, List.length_drop]; omega)

def decodeLossy (bytes : List UInt8) : String := String.ofList (lossyChars bytes)

def encode (s : String) : List UInt8 := s.toUTF8.data.toList

end EventTally.Utf8
