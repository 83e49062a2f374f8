import EventTally.Certificate.Basic
import EventTally.Certificate.Key

/-! Whether the certificates and keys of an access can be used to make connections. -/

namespace EventTally.Certificate

/-- Whether all certificates in a text can be trusted for others. There need not be any. -/
def rootsUsable (input : Bytes) : Bool :=
  match sections? input with
  | some found =>
    (found.filter (·.label = .certificate)).all fun s => (readRoot? s.content).isSome
  | none => false

def isKey (l : Label) : Bool := l = .rsaKey || l = .key || l = .ecKey

/-- Whether a text holds certificates and keys and nothing else, and its last key belongs to its
first certificate. -/
def identityUsable (input : Bytes) : Bool :=
  match sections? input with
  | none => false
  | some found =>
    let certificates := found.filter (·.label = .certificate)
    let keys := found.filter (isKey ·.label)
    certificates.length + keys.length = found.length &&
      match certificates.head?.bind (read? ·.content), keys.getLast?.bind PrivateKey.ofSection? with
      | some c, some k => k.publicKey?.all (· = c.subjectKey)
      | _, _ => false

end EventTally.Certificate
