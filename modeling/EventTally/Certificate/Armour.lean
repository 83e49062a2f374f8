import EventTally.Base64

/-! Sections of text that carry binary data: a line that begins a section and says what it holds,
lines in Base64, and a line that ends it. What stands outside of sections is passed over, as are
sections that hold something else than keys and certificates. -/

namespace EventTally.Certificate

inductive Label where
  | certificate | rsaKey | key | ecKey | publicKey | revocation | request | hello
  deriving DecidableEq

namespace Label

def words : List (String × Label) :=
  [("CERTIFICATE", certificate), ("RSA PRIVATE KEY", rsaKey), ("PRIVATE KEY", key),
   ("EC PRIVATE KEY", ecKey), ("PUBLIC KEY", publicKey), ("X509 CRL", revocation),
   ("CERTIFICATE REQUEST", request), ("ECHCONFIG", hello)]

end Label

structure Section where
  label : Label
  content : Bytes
  deriving DecidableEq

/-- A section that has begun. -/
structure OpenSection where
  word : Bytes

def dash : UInt8 := 45

def beginMark : Bytes := Utf8.encode "-----BEGIN "

def endMark (word : Bytes) : Bytes :=
  Utf8.encode "-----END " ++ word ++ List.replicate 5 dash

/-- Lines end with a newline or a carriage return. -/
def armourLines (input : Bytes) : List Bytes := input.splitOnP fun b => b = 10 || b = 13

/-- The word of a line that begins a section. Exactly five dashes stand behind it. -/
def beginWord? (line : Bytes) : Option Bytes :=
  let tail := (line.reverse.takeWhile fun b => b = dash || b = 0x20).reverse
  let tail := tail.dropWhile (· ≠ dash)
  if tail.count dash = 5 then some ((line.take (line.length - tail.length)).drop beginMark.length)
  else none

def isArmourBlank (b : UInt8) : Bool := b = 0x20 || b = 9 || b = 11 || b = 12

/-- What is read so far: the section that is open, its data, and the sections before it in
reverse. -/
structure Reading where
  current : Option OpenSection := none
  data : Bytes := []
  found : List Section := []

namespace Reading

def line (r : Reading) (text : Bytes) : Option Reading :=
  if beginMark.isPrefixOf text then
    (beginWord? text).map fun word => { r with current := some ⟨word⟩ }
  else
    match r.current with
    | none => some r
    | some s =>
      if (endMark s.word).isPrefixOf text then
        match Label.words.find? (Utf8.encode ·.1 = s.word) with
        | none => some { r with current := none, data := [] }
        | some (_, label) =>
          match Base64.decode r.data with
          | .ok content => some ⟨none, [], ⟨label, content⟩ :: r.found⟩
          | .error _ => none
      else some { r with data := r.data ++ text.filter (!isArmourBlank ·) }

end Reading

/-- The sections of a text, if each that begins also ends and can be decoded. -/
def sections? (input : Bytes) : Option (List Section) := do
  let r ← (armourLines input).foldlM Reading.line {}
  if r.current.isSome then none else return r.found.reverse

end EventTally.Certificate
