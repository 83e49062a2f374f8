import EventTally.File.Entry

/-! Base64 in its standard alphabet. Symbols come in groups of four, each group three bytes; the
last group must be filled up with padding and may not have bits that stand for nothing. -/

namespace EventTally.Base64

inductive Fault where
  | symbol (byte : UInt8) (offset : Nat)
  | length (symbols : Nat)
  | lastSymbol (byte : UInt8) (offset : Nat)
  | padding
  deriving DecidableEq

def Fault.message : Fault → String
  | symbol byte offset => s!"Invalid symbol {byte}, offset {offset}."
  | length symbols => s!"Invalid input length: {symbols}"
  | lastSymbol byte offset => s!"Invalid last symbol {byte}, offset {offset}."
  | padding => "Invalid padding"

def pad : UInt8 := 61

/-- The six bits that a symbol stands for. -/
def sextet? (b : UInt8) : Option Nat :=
  let n := b.toNat
  if 65 ≤ n && n ≤ 90 then some (n - 65)
  else if 97 ≤ n && n ≤ 122 then some (n - 71)
  else if 48 ≤ n && n ≤ 57 then some (n + 4)
  else if n = 43 then some 62
  else if n = 47 then some 63
  else none

/-- The number that symbols make, read in base 64. -/
def number (offset acc : Nat) : Bytes → Except Fault Nat
  | [] => .ok acc
  | b :: rest =>
    match sextet? b with
    | some v => number (offset + 1) (acc * 64 + v) rest
    | none => .error (.symbol b offset)

/-- A number as bytes, the highest first. -/
def bytes (n : Nat) : Nat → Bytes
  | 0 => []
  | count + 1 => UInt8.ofNat (n / Nat.pow 256 count) :: bytes n count

/-- The last group: two to four symbols and padding. -/
def lastGroup (offset : Nat) (group : Bytes) : Except Fault Bytes := do
  let symbols := group.takeWhile (· ≠ pad)
  let padding := group.dropWhile (· ≠ pad)
  let n ← number offset 0 symbols
  if !padding.isEmpty && symbols.length < 2 || padding.any (· ≠ pad) then
    throw (.symbol pad (offset + symbols.length))
  if symbols.length < 2 then throw (.length (offset + symbols.length))
  if group.length ≠ 4 then throw .padding
  let spare := 2 * padding.length
  if n % Nat.pow 2 spare ≠ 0 then
    throw (.lastSymbol (symbols.getLast?.getD 0) (offset + symbols.length - 1))
  return bytes (n / Nat.pow 2 spare) (3 - padding.length)

/-- Decodes the groups that start at an offset. -/
def groups (offset : Nat) : Bytes → Except Fault Bytes
  | a :: b :: c :: d :: e :: rest => do
    let n ← number offset 0 [a, b, c, d]
    return bytes n 3 ++ (← groups (offset + 4) (e :: rest))
  | [] => .ok []
  | group => lastGroup offset group

/-- A lone byte behind complete groups that is no symbol is reported before all else. -/
def strayEnd? (input : Bytes) : Option Fault :=
  match input.getLast? with
  | some b =>
    if input.length % 4 = 1 && b ≠ pad && (sextet? b).isNone then
      some (.symbol b (input.length - 1))
    else none
  | none => none

def decode (input : Bytes) : Except Fault Bytes :=
  match strayEnd? input with
  | some fault => .error fault
  | none => groups 0 input

end EventTally.Base64
