import EventTally.Text.Hex
import EventTally.Text.Utf8

/-! Percent encoding: a byte is written as a percent sign and two hexadecimal digits. Controls and
characters that are not ASCII are always encoded; the sets say which others are. -/

namespace EventTally.Percent

def encodeByte (b : UInt8) : List Char :=
  ['%', Hex.upperDigit (b.toNat / 16), Hex.upperDigit b.toNat]

def isPlain (c : Char) : Bool := 0x20 ≤ c.toNat && c.toNat ≤ 0x7E

def encodeChar (set : List Char) (c : Char) : List Char :=
  if isPlain c && !set.contains c then [c]
  else (Utf8.encode (String.singleton c)).flatMap encodeByte

def encode (set : List Char) (cs : List Char) : String :=
  String.ofList (cs.flatMap (encodeChar set))

def fragmentSet : List Char := [' ', '"', '<', '>', Char.ofNat 0x60]

def pathSet : List Char := fragmentSet ++ ['#', '?', Char.ofNat 0x7B, Char.ofNat 0x7D]

def userSet : List Char := pathSet ++ ['/', ':', ';', '=', '@', '[', '\\', ']', '^', '|']

def querySet : List Char := [' ', '"', '#', '<', '>']

def specialQuerySet : List Char := querySet ++ [Char.ofNat 0x27]

def hexByte? (a b : UInt8) : Option UInt8 := do
  let hi ← Hex.value? (Char.ofNat a.toNat)
  let lo ← Hex.value? (Char.ofNat b.toNat)
  return UInt8.ofNat (hi * 16 + lo)

/-- A percent sign that is not followed by two digits stands for itself. -/
def decode : List UInt8 → List UInt8
  | 37 :: a :: b :: rest =>
    match hexByte? a b with
    | some byte => byte :: decode rest
    | none => 37 :: decode (a :: b :: rest)
  | b :: rest => b :: decode rest
  | [] => []

/-! ## Forms -/

def isFormPlain (b : UInt8) : Bool :=
  let c := Char.ofNat b.toNat
  c.isAlphanum || c = '*' || c = '-' || c = '.' || c = '_'

def encodeFormByte (b : UInt8) : List Char :=
  if b = 0x20 then ['+'] else if isFormPlain b then [Char.ofNat b.toNat] else encodeByte b

/-- The text as a name or a value of a form. -/
def encodeForm (s : String) : String := String.ofList ((Utf8.encode s).flatMap encodeFormByte)

def decodePlus (bytes : List UInt8) : List UInt8 := bytes.map fun b => if b = 43 then 0x20 else b

def decodeForm? (s : String) : Option String := Utf8.decode? (decode (decodePlus (Utf8.encode s)))

end EventTally.Percent
