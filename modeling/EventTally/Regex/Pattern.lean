import EventTally.Regex.Syntax
import EventTally.Unicode.Age
import EventTally.Unicode.Break
import EventTally.Unicode.CaseOrbit
import EventTally.Unicode.Property
import EventTally.Unicode.Script

/-! What a regular expression means, once its flags are applied: sets of characters, tests of a
position, groups, sequences, ordered choices and repetitions. Without the Unicode flag, classes are
limited to ASCII. -/

namespace EventTally.Regex

/-- A test of the position between two characters. -/
inductive Look where
  | textStart | textStop
  | lineStart | lineStop
  /-- The start and the stop of a line that may end in `\r\n`. -/
  | crlfStart | crlfStop
  | word (edge : WordEdge) (unicode : Bool)
  deriving DecidableEq

inductive Pattern where
  | empty
  | chars (s : CharSet)
  | look (l : Look)
  | group (index : Nat) (body : Pattern)
  | seq (first second : Pattern)
  | alt (first second : Pattern)
  | repeat (min : Nat) (max : Option Nat) (greedy : Bool) (body : Pattern)

structure Flags where
  ignoreCase : Bool := false
  multiLine : Bool := false
  dotAll : Bool := false
  swapGreed : Bool := false
  unicode : Bool := true
  crlf : Bool := false

def Flags.apply (f : Flags) (t : Toggles) : Flags where
  ignoreCase := t.ignoreCase.getD f.ignoreCase
  multiLine := t.multiLine.getD f.multiLine
  dotAll := t.dotAll.getD f.dotAll
  swapGreed := t.swapGreed.getD f.swapGreed
  unicode := t.unicode.getD f.unicode
  crlf := t.crlf.getD f.crlf

/-! ## Classes -/

def asciiDigits : CharSet := ⟨[(48, 57)]⟩

def asciiBlanks : CharSet := ⟨[(9, 13), (32, 32)]⟩

def asciiWordChars : CharSet := ⟨[(48, 57), (65, 90), (95, 95), (97, 122)]⟩

/-- The members together with their case variants, if the flags ask for them. -/
def Flags.close (f : Flags) (s : CharSet) : CharSet :=
  if !f.ignoreCase then s
  else if f.unicode then Unicode.closeCase s
  else Unicode.closeAsciiCase s

/-- The complement, which goes beyond ASCII and so needs the Unicode flag. -/
def Flags.negate? (f : Flags) (negated : Bool) (s : CharSet) : Option CharSet :=
  if !negated then some s else if f.unicode then some s.complement else none

/-- The name of a property or of a value as it is compared: without case, blanks, hyphens,
underscores and a leading `is`. -/
def looseName (name : String) : String :=
  let plain (cs : List Char) :=
    (cs.filter fun c => c.toNat < 128 && c != ' ' && c != '_' && c != '-').map Char.toLower
  match name.toList with
  | a :: b :: rest =>
    if a.toLower = 'i' && b.toLower = 's' then
      if plain rest = ['c'] then "isc" else String.ofList (plain rest)
    else String.ofList (plain name.toList)
  | cs => String.ofList (plain cs)

/-- Names that mean a category although a property has them too. -/
def categoriesFirst : List String := ["cf", "sc", "lc"]

def PropertyQuery.chars? : PropertyQuery → Option CharSet
  | .name text =>
    let n := looseName text
    (if categoriesFirst.contains n then none else Unicode.property? n) <|>
      Unicode.category? n <|> Unicode.script? n
  | .value property text =>
    let v := looseName text
    match looseName property with
    | "gc" | "generalcategory" => Unicode.category? v
    | "sc" | "script" => Unicode.script? v
    | "scx" | "scriptextensions" => Unicode.scriptUse? v
    | "age" => Unicode.age? v
    | "gcb" | "graphemeclusterbreak" => Unicode.graphemeBreak? v
    | "wb" | "wordbreak" => Unicode.wordBreak? v
    | "sb" | "sentencebreak" => Unicode.sentenceBreak? v
    | _ => none

def Shorthand.chars (unicode : Bool) : Shorthand → CharSet
  | .digit => if unicode then Unicode.digits else asciiDigits
  | .space => if unicode then Unicode.blanks else asciiBlanks
  | .word => if unicode then Unicode.wordChars else asciiWordChars

def SetOp.apply : SetOp → CharSet → CharSet → CharSet
  | .inter => CharSet.inter
  | .diff => CharSet.diff
  | .symmDiff => CharSet.symmDiff

mutual

/-- The members of a class. Case variants are added before a complement is taken, and to the
operands of a set operation. -/
def ClassTree.chars? (f : Flags) : ClassTree → Option CharSet
  | .char c => if f.unicode || c.toNat < 128 then some (.singleton c) else none
  | .range a b => if f.unicode || b.toNat < 128 then some (.range a b) else none
  | .shorthand kind negated => f.negate? negated (kind.chars f.unicode)
  | .property query negated => do
    if f.unicode then f.negate? negated (f.close (← query.chars?)) else none
  | .ascii ranges negated => f.negate? negated (f.close ⟨ranges⟩)
  | .bracket negated body => do f.negate? negated (f.close (← body.chars? f))
  | .union items => ClassTree.unionChars? f items
  | .combine op l r => do return op.apply (f.close (← l.chars? f)) (f.close (← r.chars? f))

def ClassTree.unionChars? (f : Flags) : List ClassTree → Option CharSet
  | [] => some .empty
  | item :: items => do return (← item.chars? f).union (← ClassTree.unionChars? f items)

end

/-! ## Expressions -/

/-- Whether a match takes no character at all, whatever is matched. -/
def Pattern.isEmpty : Pattern → Bool
  | .empty | .look _ => true
  | .chars _ => false
  | .group _ p => p.isEmpty
  | .seq p q | .alt p q => p.isEmpty && q.isEmpty
  | .repeat _ max _ p => max.isSome && p.isEmpty

/-- Whether some match may take no character. -/
def Pattern.nullable : Pattern → Bool
  | .empty | .look _ => true
  | .chars _ => false
  | .group _ p => p.nullable
  | .seq p q => p.nullable && q.nullable
  | .alt p q => p.nullable || q.nullable
  | .repeat min _ _ p => min == 0 || p.nullable

/-- A repetition in its simplest form: what takes no character is repeated once at most, what is
never repeated is left out with its groups, and what stands once stands by itself. -/
def Pattern.times (min : Nat) (max : Option Nat) (greedy : Bool) (p : Pattern) : Pattern :=
  let (min, max) := if p.isEmpty then (Nat.min min 1, some ((max.getD 1).min 1)) else (min, max)
  if min = 0 && max = some 0 then .empty
  else if min = 1 && max = some 1 then p
  else .repeat min max greedy p

/-- The greatest number of a group. -/
def Pattern.groups : Pattern → Nat
  | .empty | .look _ | .chars _ => 0
  | .group index p => max index p.groups
  | .seq p q | .alt p q => max p.groups q.groups
  | .repeat _ _ _ p => p.groups

def Flags.dot? (f : Flags) : Option Pattern :=
  if !f.unicode then none
  else if f.dotAll then some (.chars .all)
  else if f.crlf then some (.chars (CharSet.ofRanges [(10, 10), (13, 13)]).complement)
  else some (.chars (CharSet.singleton '\n').complement)

def Flags.anchor (f : Flags) : Anchor → Look
  | .caret => if !f.multiLine then .textStart else if f.crlf then .crlfStart else .lineStart
  | .dollar => if !f.multiLine then .textStop else if f.crlf then .crlfStop else .lineStop
  | .textStart => .textStart
  | .textStop => .textStop
  | .word edge => .word edge f.unicode

def Flags.char? (f : Flags) (c : Char) (byte : Bool) : Option Pattern :=
  if !f.unicode && byte && 128 ≤ c.toNat then none
  else if f.unicode || c.toNat < 128 then some (.chars (f.close (.singleton c)))
  else some (.chars (.singleton c))

mutual

/-- The pattern of a syntax tree under some flags, and the flags that hold after it. -/
def Tree.pattern? (f : Flags) : Tree → Option (Pattern × Flags)
  | .empty => some (.empty, f)
  | .toggles t => some (.empty, f.apply t)
  | .char c byte => (f.char? c byte).map (·, f)
  | .dot => f.dot?.map (·, f)
  | .anchor a => some (.look (f.anchor a), f)
  | .chars c => (c.chars? f).map fun s => (.chars s, f)
  | .repeat min max greedy body => do
    let (p, _) ← body.pattern? f
    return (p.times min max (greedy != f.swapGreed), f)
  | .capture index body => do
    let (p, _) ← body.pattern? f
    return (.group index p, f)
  | .group t body => do
    let (p, _) ← body.pattern? (f.apply t)
    return (p, f)
  | .seq parts => Tree.seq? f parts
  | .alt branches => Tree.alt? f branches

def Tree.seq? (f : Flags) : List Tree → Option (Pattern × Flags)
  | [] => some (.empty, f)
  | t :: ts => do
    let (p, f) ← t.pattern? f
    let (q, f) ← Tree.seq? f ts
    return (if ts.isEmpty then p else .seq p q, f)

/-- A flag that one branch sets holds in the later branches too. -/
def Tree.alt? (f : Flags) : List Tree → Option (Pattern × Flags)
  | [] => some (.empty, f)
  | t :: ts => do
    let (p, f) ← t.pattern? f
    let (q, f) ← Tree.alt? f ts
    return (if ts.isEmpty then p else .alt p q, f)

end

/-- The pattern of a whole expression. -/
def Pattern.ofTree? (t : Tree) : Option Pattern := (t.pattern? {}).map (·.1)

end EventTally.Regex
