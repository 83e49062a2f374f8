import EventTally.Unicode.Category
import EventTally.Unicode.Composition
import EventTally.Unicode.Direction
import EventTally.Unicode.DomainMap
import EventTally.Url.Punycode
import EventTally.Text.Utf8

/-! Names of domains in ASCII. Characters are brought to their common form and the labels composed;
a label that is not ASCII then has to pass the rules for labels and is written in Punycode. A label
that is in Punycode already has to stand for one that passes them. -/

namespace EventTally.Domain

open Unicode

/-- The start of labels in Punycode. -/
def mark : List Char := ['x', 'n', '-', '-']

def isAscii (cs : List Char) : Bool := cs.all fun c => c.toNat < 0x80

/-- Characters that no name may hold. -/
def isForbidden (c : Char) : Bool :=
  c.toNat ≤ 0x20 || c.toNat = 0x7F || "%#/:<>?@[\\]^|".toList.contains c

def marks : CharSet := ofCategories ["Mn", "Mc", "Me"]

/-! ## Joiners -/

def nonJoiner : Char := '\u200C'

def joiner : Char := '\u200D'

def isVirama (c : Char) : Bool := combiningClass c = 9

/-- Whether the first character that is not transparent joins on the side given. -/
def joins (types : List String) (cs : List Char) : Bool :=
  match cs.dropWhile (joining · = "T") with
  | c :: _ => types.contains (joining c)
  | [] => false

/-- A joiner follows a virama; what keeps letters from joining may also stand between two that
would. `before` holds the characters before the rest, in reverse. -/
def joinersFit (before : List Char) : List Char → Bool
  | [] => true
  | c :: rest =>
    (if c = joiner then before.head?.any isVirama
     else if c = nonJoiner then
      before.head?.any isVirama || joins ["L", "D"] before && joins ["R", "D"] rest
     else true) && joinersFit (c :: before) rest

/-! ## Direction -/

def isRightToLeft (c : Char) : Bool := ["R", "AL", "AN"].contains (direction c)

/-- The classes of a label's characters keep to the direction of the first one. -/
def directionFits (label : List Char) : Bool :=
  let classes := label.map direction
  let neutral := ["EN", "ES", "CS", "ET", "ON", "BN", "NSM"]
  let last := (classes.reverse.dropWhile (· = "NSM")).head?.getD ""
  match classes with
  | [] => true
  | first :: _ =>
    if first = "R" || first = "AL" then
      classes.all (["R", "AL", "AN"] ++ neutral).contains &&
        ["R", "AL", "EN", "AN"].contains last &&
        !(classes.contains "EN" && classes.contains "AN")
    else first = "L" && classes.all ("L" :: neutral).contains && ["L", "EN"].contains last

/-! ## Labels -/

/-- Whether a label that is not ASCII is one that a name may have. -/
def labelFits (label : List Char) : Bool :=
  normalize label = label && label.all (fun c => domainForm? c = some [c]) &&
    !label.head?.any marks.contains && !mark.isPrefixOf label && !label.contains '.' &&
    joinersFit [] label

/-- The longest labels that are decoded and encoded. -/
def decodeLimit : Nat := 2000
def encodeLimit : Nat := 1000

/-- A label as it is read, and as it is written. -/
structure Label where
  shown : List Char
  written : List Char

def label? (cs : List Char) : Option Label :=
  if mark.isPrefixOf cs then do
    let digits := cs.drop 4
    if decodeLimit < digits.length || digits.getLast? = some '-' then none
    let shown ← Punycode.decode? digits
    if !isAscii shown && labelFits shown then some ⟨shown, cs⟩ else none
  else if isAscii cs then some ⟨cs, cs⟩
  else if cs.length ≤ encodeLimit && labelFits cs then some ⟨cs, mark ++ Punycode.encode cs⟩
  else none

/-- The name of a domain in ASCII. -/
def ofChars? (cs : List Char) : Option String := do
  let mapped := normalize (← cs.mapM domainForm?).flatten
  if mapped.any isForbidden then none
  let labels ← (mapped.splitOn '.').mapM label?
  if labels.any (fun l => l.shown.any isRightToLeft) && !labels.all (directionFits ·.shown) then none
  return String.ofList (['.'].intercalate (labels.map (·.written)))

def ofBytes? (bytes : List UInt8) : Option String :=
  (Utf8.decode? bytes).bind fun s => ofChars? s.toList

end EventTally.Domain
