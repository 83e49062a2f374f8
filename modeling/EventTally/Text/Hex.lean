/-! Hexadecimal digits. -/

namespace EventTally.Hex

/-- The last digit of a number, with small letters. -/
def digit (n : Nat) : Char := Nat.digitChar (n % 16)

def upperDigit (n : Nat) : Char := (digit n).toUpper

/-- The value of a digit, whose letter may be of either case. -/
def value? (c : Char) : Option Nat :=
  if '0' ≤ c && c ≤ '9' then some (c.toNat - 48)
  else if 'a' ≤ c && c ≤ 'f' then some (c.toNat - 87)
  else if 'A' ≤ c && c ≤ 'F' then some (c.toNat - 55)
  else none

/-- The number that digits make. -/
def number? (digits : List Char) : Option Nat :=
  (digits.mapM value?).map (·.foldl (fun n d => n * 16 + d) 0)

end EventTally.Hex
