import EventTally.File.Entry

/-! Binary values that each say what they are and how long they are, in the form that leaves no
choice. -/

namespace EventTally.Der

/-- What kind a value is of. -/
abbrev Tag := UInt8

namespace Tag

def boolean : Tag := 1
def integer : Tag := 2
def bitString : Tag := 3
def octetString : Tag := 4
def null : Tag := 5
def objectId : Tag := 6
def sequence : Tag := 0x30
/-- The tag of the part with a number. -/
def part (n : UInt8) : Tag := 0xA0 + n

end Tag

structure Item where
  tag : Tag
  content : Bytes
  deriving DecidableEq

def number (bytes : Bytes) : Nat := bytes.foldl (fun n b => n * 256 + b.toNat) 0

/-- A length, and what follows it. It takes no more bytes than it needs. -/
def length? : Bytes → Option (Nat × Bytes)
  | [] => none
  | b :: rest =>
    if b < 0x80 then some (b.toNat, rest)
    else
      let count := b.toNat - 0x80
      let n := number (rest.take count)
      if count = 0 || 4 < count || rest.length < count then none
      else if n < 0x80 || n < Nat.pow 256 (count - 1) then none
      else some (n, rest.drop count)

/-- The first item, and what follows it. -/
def item? : Bytes → Option (Item × Bytes)
  | [] => none
  | tag :: rest => do
    if tag.toNat % 32 = 31 then none
    let (n, rest) ← length? rest
    if rest.length < n then none else return (⟨tag, rest.take n⟩, rest.drop n)

/-- The content of the first item, which has the tag. -/
def expect? (tag : Tag) (bytes : Bytes) : Option (Bytes × Bytes) := do
  let (item, rest) ← item? bytes
  if item.tag = tag then some (item.content, rest) else none

/-- The content of the only item. -/
def only? (tag : Tag) (bytes : Bytes) : Option Bytes := do
  let (content, rest) ← expect? tag bytes
  if rest.isEmpty then some content else none

/-- All items; each takes at least one byte. -/
def items? (bytes : Bytes) : Option (List Item) :=
  go bytes.length bytes
where
  go : Nat → Bytes → Option (List Item)
  | _, [] => some []
  | 0, _ => none
  | fuel + 1, bytes => do
    let (item, rest) ← item? bytes
    return item :: (← go fuel rest)

/-- An integer that is not negative. -/
def natural? (content : Bytes) : Option Nat :=
  match content with
  | [] => none
  | [b] => if b < 0x80 then some b.toNat else none
  | b :: c :: _ => if 0x80 ≤ b || b = 0 && c < 0x80 then none else some (number content)

/-- The bytes of a bit string that ends with a whole byte. -/
def wholeBits? : Bytes → Option Bytes
  | 0 :: bytes => some bytes
  | _ => none

/-- An item as bytes. -/
def write (tag : Tag) (content : Bytes) : Bytes :=
  let n := content.length
  let length : Bytes :=
    if n < 0x80 then [UInt8.ofNat n]
    else if n < 0x100 then [0x81, UInt8.ofNat n]
    else [0x82, UInt8.ofNat (n / 256), UInt8.ofNat n]
  tag :: length ++ content

end EventTally.Der
