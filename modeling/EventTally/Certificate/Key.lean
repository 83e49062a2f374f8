import EventTally.Certificate.Armour
import EventTally.Certificate.Der

/-! Private keys for signing. A key says which public key belongs to it, unless that would have to
be computed on a curve. -/

namespace EventTally.Certificate

open Der

structure PrivateKey where
  /-- The public key with its algorithm. -/
  publicKey? : Option Bytes
  deriving DecidableEq

namespace PrivateKey

def rsaId : Bytes := [0x2A, 0x86, 0x48, 0x86, 0xF7, 0x0D, 0x01, 0x01, 0x01]
def ecId : Bytes := [0x2A, 0x86, 0x48, 0xCE, 0x3D, 0x02, 0x01]
def edwardsId : Bytes := [0x2B, 0x65, 0x70]

structure Curve where
  id : Bytes
  /-- The bytes of a coordinate. -/
  size : Nat

def curves : List Curve :=
  [⟨[0x2A, 0x86, 0x48, 0xCE, 0x3D, 0x03, 0x01, 0x07], 32⟩, ⟨[0x2B, 0x81, 0x04, 0x00, 0x22], 48⟩]

def publicKey (algorithm key : Bytes) : Bytes :=
  write .sequence algorithm ++ write .bitString (0 :: key)

/-- The least and the greatest number of bits of a modulus. -/
def modulusBits : Nat × Nat := (2048, 4096)

def bits (n : Nat) : Nat := if n = 0 then 0 else n.log2 + 1

/-- Whether the numbers make a key: the modulus, the two exponents, the primes, and what makes
computing with them faster. -/
def rsaFits : List Nat → Bool
  | [n, e, d, p, q, dp, dq, qInv] =>
    modulusBits.1 ≤ bits n && bits n ≤ modulusBits.2 && e % 2 = 1 && 65537 ≤ e && bits e ≤ 33 &&
      p * q = n && p % 2 = 1 && q % 2 = 1 && d % 2 = 1 && d < n && dp < p && dq < q && qInv < p &&
      qInv * q % p = 1
  | _ => false

def rsa? (der : Bytes) : Option PrivateKey := do
  let items ← items? (← only? .sequence der)
  if items.any (·.tag ≠ .integer) then none
  match items with
  | version :: numbers =>
    if version.content ≠ [0] || !rsaFits (← numbers.mapM (natural? ·.content)) then none
    let key := write .sequence ((numbers.take 2).flatMap fun i => write .integer i.content)
    return ⟨some (publicKey (write .objectId rsaId ++ write .null []) key)⟩
  | [] => none

/-- A key on a curve: the secret, perhaps the curve, and the public point. -/
def ecOn? (c : Curve) (der : Bytes) : Option PrivateKey := do
  let (version, rest) ← expect? .integer (← only? .sequence der)
  let (secret, rest) ← expect? .octetString rest
  let rest ← match expect? (.part 0) rest with
    | some (id, rest) => if id = write .objectId c.id then some rest else none
    | none => some rest
  let point ← wholeBits? (← only? .bitString (← only? (.part 1) rest))
  if version ≠ [1] || secret.length ≠ c.size || point.length ≠ 2 * c.size + 1
      || point.head? ≠ some 4 then
    none
  return ⟨some (publicKey (write .objectId ecId ++ write .objectId c.id) point)⟩

def ec? (der : Bytes) : Option PrivateKey := curves.firstM (ecOn? · der)

def edwards? (content : Bytes) : Option PrivateKey := do
  let seed ← only? .octetString content
  if seed.length = 32 then return ⟨none⟩ else none

/-- A key with its algorithm. -/
def general? (der : Bytes) : Option PrivateKey := do
  let (version, rest) ← expect? .integer (← only? .sequence der)
  let (algorithm, rest) ← expect? .sequence rest
  let (content, rest) ← expect? .octetString rest
  if version = [0] && algorithm = write .objectId rsaId ++ write .null [] then
    if rest.isEmpty then rsa? content else none
  else if version = [0] then
    match curves.find? fun c => algorithm = write .objectId ecId ++ write .objectId c.id with
    | some c => ecOn? c content
    | none => if algorithm = write .objectId edwardsId then edwards? content else none
  else if version = [1] && algorithm = write .objectId edwardsId then edwards? content
  else none

def ofSection? (s : Section) : Option PrivateKey :=
  match s.label with
  | .rsaKey => rsa? s.content
  | .key => general? s.content
  | .ecKey => ec? s.content
  | _ => none

end PrivateKey
end EventTally.Certificate
