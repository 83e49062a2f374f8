import EventTally.Url.Basic
import EventTally.Url.Domain

/-! Reading hosts. A host in brackets is an IPv6 address. In the special schemes any other host is
the name of a domain, or an IPv4 address if its last part is a number; elsewhere it is a text. -/

namespace EventTally.Host

/-! ## IPv4 -/

def radixNumber? (radix : Nat) (digits : List Char) : Option Nat :=
  digits.foldlM (fun n c => do
    let d ← Hex.value? c
    if d < radix then some (n * radix + d) else none) 0

/-- A part of an IPv4 address: hexadecimal after `0x`, octal after another zero. -/
def partNumber? : List Char → Option Nat
  | [] => none
  | '0' :: c :: rest =>
    if c = 'x' || c = 'X' then radixNumber? 16 rest else radixNumber? 8 (c :: rest)
  | digits => radixNumber? 10 digits

/-- The parts between the dots, where one dot at the end does not count. -/
def parts (domain : List Char) : List (List Char) :=
  let parts := domain.splitOn '.'
  if parts.getLast? = some [] then parts.dropLast else parts

def endsInNumber (domain : List Char) : Bool :=
  match (parts domain).getLast? with
  | some part => !part.isEmpty && part.all Char.isDigit || (partNumber? part).isSome
  | none => false

/-- The last part fills all the bytes that the parts before it leave. -/
def ipv4? (domain : List Char) : Option Nat := do
  let numbers ← (parts domain).mapM partNumber?
  let last ← numbers.getLast?
  let bytes := numbers.dropLast
  if 3 < bytes.length || !bytes.all (· < 256) || Nat.pow 256 (4 - bytes.length) ≤ last then none
  else return bytes.foldl (fun n b => n * 256 + b) 0 * Nat.pow 256 (4 - bytes.length) + last

/-! ## IPv6 -/

def octet? (digits : List Char) : Option Nat := do
  if digits.isEmpty || !digits.all Char.isDigit || digits.length > 1 && digits.head? = some '0' then none
  let n ← radixNumber? 10 digits
  if n < 256 then some n else none

/-- The two pieces of an IPv4 address with its four bytes in decimal. -/
def dotted? (text : List Char) : Option (List Nat) := do
  match ← (text.splitOn '.').mapM octet? with
  | [a, b, c, d] => some [a * 256 + b, c * 256 + d]
  | _ => none

def piece? (digits : List Char) : Option Nat :=
  if digits.isEmpty || digits.length > 4 then none else radixNumber? 16 digits

/-- The pieces between the colons; the last ones may be given as an IPv4 address. -/
def pieces? (mayBeDotted : Bool) : List (List Char) → Option (List Nat)
  | [] => some []
  | [last] =>
    if mayBeDotted && last.contains '.' then dotted? last else (piece? last).map ([·])
  | group :: rest => do return (← piece? group) :: (← pieces? mayBeDotted rest)

def side? (mayBeDotted : Bool) (text : List Char) : Option (List Nat) :=
  if text.isEmpty then some [] else pieces? mayBeDotted (text.splitOn ':')

/-- The texts before and after the first two colons in a row. -/
def cutGap? : List Char → Option (List Char × List Char)
  | [] => none
  | ':' :: ':' :: rest => some ([], rest)
  | c :: rest => (cutGap? rest).map fun (before, after) => (c :: before, after)

/-- Eight pieces, or fewer and a gap that stands for zeros. -/
def ipv6? (text : List Char) : Option (List Nat) :=
  match cutGap? text with
  | none => (side? true text).filter (·.length = 8)
  | some (before, after) => do
    let before ← side? false before
    let after ← side? true after
    let given := before.length + after.length
    if given < 8 then some (before ++ List.replicate (8 - given) 0 ++ after) else none

/-! ## Hosts -/

def ofDomain (text : List Char) : Except UrlError Host :=
  match Domain.ofBytes? (Percent.decode (Utf8.encode (String.ofList text))) with
  | none => .error .badDomain
  | some domain =>
    if domain.isEmpty then .error .emptyHost
    else if endsInNumber domain.toList then
      ((ipv4? domain.toList).map ipv4).elim (.error .badIpv4) .ok
    else .ok (.name domain)

/-- Characters that may not stand in a host that is a text. -/
def reserved : List Char :=
  [Char.ofNat 0, '\t', '\n', '\r', ' ', '#', '/', ':', '<', '>', '?', '@', '[', '\\', ']', '^', '|']

def ofText (text : List Char) : Except UrlError Host :=
  if text.any reserved.contains then .error .badHostCharacter
  else .ok (.name (Percent.encode [] text))

def read (isSpecial : Bool) (text : List Char) : Except UrlError Host :=
  match text with
  | '[' :: rest =>
    if rest.getLast? = some ']' then
      ((ipv6? rest.dropLast).map ipv6).elim (.error .badIpv6) .ok
    else .error .badIpv6
  | text => if isSpecial then ofDomain text else ofText text

end EventTally.Host
