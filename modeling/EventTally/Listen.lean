import EventTally.Url.Host

/-! The address to listen on: a host and a port, parted by the last colon. -/

namespace EventTally

inductive ListenError where
  | noPort
  | badPort
  /-- The host can be no name. -/
  | noName
  /-- The name could not be looked up. -/
  | unknownHost
  | foreignHost
  /-- Another program listens there. -/
  | inUse
  | denied
  deriving DecidableEq

def ListenError.message : ListenError → String
  | noPort => "invalid socket address"
  | badPort => "invalid port value"
  | noName => "failed to lookup address information: Name or service not known"
  | unknownHost => "failed to lookup address information: Temporary failure in name resolution"
  | foreignHost => "Cannot assign requested address (os error 99)"
  | inUse => "Address already in use (os error 98)"
  | denied => "Permission denied (os error 13)"

structure ListenAddress where
  host : String
  port : Nat
  deriving DecidableEq

namespace ListenAddress

/-- A port is a number below 65536 in digits, perhaps with a plus. -/
def port? (cs : List Char) : Option Nat :=
  let digits := match cs with
    | '+' :: rest => rest
    | cs => cs
  if digits.isEmpty || !digits.all Char.isDigit then none
  else
    let n := digits.foldl (fun n d => n * 10 + (d.toNat - 48)) 0
    if n < 65536 then some n else none

def parse (text : String) : Except ListenError ListenAddress :=
  let reversed := text.toList.reverse
  if !reversed.contains ':' then .error .noPort
  else
    match port? (reversed.takeWhile (· != ':')).reverse with
    | none => .error .badPort
    | some port =>
      .ok ⟨String.ofList ((reversed.dropWhile (· != ':')).drop 1).reverse, port⟩

/-! ## A machine without a network

Such a machine has no addresses but those that every machine has, and can look no name up but its
own, `localhost`. -/

/-- Loopback, all addresses of the machine, and those that many machines share. -/
def isEverywhere4 (address : Nat) : Bool :=
  let first := address / 0x1000000
  first = 127 || address = 0 || (224 ≤ first && first < 240) || address = 0xFFFFFFFF

def isEverywhere6 : List Nat → Bool
  | [0, 0, 0, 0, 0, 0, 0, last] => last ≤ 1
  | [0, 0, 0, 0, 0, 0xFFFF, high, low] => isEverywhere4 (high * 0x10000 + low)
  | _ => false

/-- The text between brackets, if it has any. -/
def withoutBrackets (host : List Char) : List Char :=
  match host with
  | '[' :: rest => if rest.getLast? = some ']' then rest.dropLast else host
  | host => host

def isNameChar (c : Char) : Bool := c.isAlphanum || c = '-' || c = '_'

/-- A name of labels that take up 255 bytes at most, each with its length before it and an empty one
at the end. -/
def isName (host : List Char) : Bool :=
  let labels := (if host.getLast? = some '.' then host.dropLast else host).splitOn '.'
  host.head? ≠ some '-' &&
    labels.all (fun l => !l.isEmpty && l.length ≤ 63 && l.all isNameChar) &&
    labels.foldl (fun n l => n + l.length + 1) 1 ≤ 255

/-- Whether the machine can listen there. A star stands for loopback. -/
def onLoopback (a : ListenAddress) : Except ListenError Unit :=
  let host := a.host.toList
  let given (isHere : Bool) := if isHere then .ok () else .error ListenError.foreignHost
  if host = ['*'] || host.map Char.toLower = "localhost".toList then .ok ()
  else
    match Host.ipv6? (withoutBrackets host), Host.ipv4? host with
    | some pieces, _ => given (isEverywhere6 pieces)
    | none, some address =>
      if host.getLast? = some '.' then .error .unknownHost else given (isEverywhere4 address)
    | none, none => .error (if isName host then .unknownHost else .noName)

end ListenAddress
end EventTally
