import EventTally.Certificate.Der

/-! Certificates, as far as their form goes. Nothing is said about who signed them. -/

namespace EventTally

structure Certificate where
  /-- The public key that the certificate is for. -/
  subjectKey : Bytes
  deriving DecidableEq

namespace Certificate

open Der

/-- The start of the identifiers of the extensions that certificates of the third version have. -/
def extensionArc : Bytes := [0x55, 0x1D]

/-- The last bytes of the extensions that are understood: use of the key, other names, basic and
name constraints, where revocations are listed, and extended use. -/
def understood : List UInt8 := [15, 17, 19, 30, 31, 37]

def boolean? : Bytes → Option Bool
  | [0xFF] => some true
  | [0] => some false
  | _ => none

/-- The number of an extension that is understood, or none for one that may be passed over. -/
def extension? (content : Bytes) : Option (Option UInt8) := do
  let (id, rest) ← expect? .objectId content
  let (critical, rest) ← match expect? .boolean rest with
    | some (b, rest) => (boolean? b).map fun b => (b, rest)
    | none => some (false, rest)
  let _ ← only? .octetString rest
  let number := if id.length = 3 && extensionArc.isPrefixOf id then id.getLast? else none
  match number.filter understood.contains with
  | some n => some (some n)
  | none => if critical then none else some none

/-- Checks extensions, none of which comes twice. -/
def extensions? (content : Bytes) : Option Unit := do
  let items ← items? (← only? .sequence content)
  let numbers ← items.mapM fun item => if item.tag = .sequence then extension? item.content else none
  let numbers := numbers.filterMap id
  if numbers.eraseDups.length = numbers.length then some () else none

/-- The signed part, the algorithm and the signature. -/
def envelope? (der : Bytes) : Option (Bytes × Bytes) := do
  let (signed, rest) ← expect? .sequence (← only? .sequence der)
  let (algorithm, rest) ← expect? .sequence rest
  let _ ← wholeBits? (← only? .bitString rest)
  if signed.length < 0x10000 then return (signed, algorithm) else none

/-- The parts between the serial number and the extensions; each certificate has them. -/
def names? (bytes : Bytes) : Option (Bytes × Bytes × Bytes) := do
  let (_, rest) ← expect? .integer bytes
  let (algorithm, rest) ← expect? .sequence rest
  let (_, rest) ← expect? .sequence rest
  let (_, rest) ← expect? .sequence rest
  let (_, rest) ← expect? .sequence rest
  let (key, rest) ← expect? .sequence rest
  return (algorithm, key, rest)

/-- A certificate of the third version. -/
def read? (der : Bytes) : Option Certificate := do
  let (signed, algorithm) ← envelope? der
  let (version, rest) ← expect? (.part 0) signed
  if (← only? .integer version) ≠ [2] then none
  let (named, key, rest) ← names? rest
  if named ≠ algorithm then none
  if !rest.isEmpty then extensions? (← only? (.part 3) rest)
  return ⟨key⟩

/-- A certificate of the first version, which has no version number. -/
def readFirst? (der : Bytes) : Option Certificate := do
  let (signed, _) ← envelope? der
  let (_, key, rest) ← names? signed
  if rest.isEmpty then return ⟨key⟩ else none

/-- A certificate that others are trusted for. -/
def readRoot? (der : Bytes) : Option Certificate := (read? der).or (readFirst? der)

end Certificate
end EventTally
