import EventTally.Yaml.Scalar

/-! The tokens of a YAML text. In a block, indentation opens and closes collections. A mapping key
needs no sign of its own: its place is held until a colon follows on the same line, and the token
for the key is then put in front of it. -/

namespace EventTally.Yaml

inductive Style where
  | plain | quoted | literal | folded
  deriving DecidableEq

inductive Token where
  | version (major minor : Nat)
  | tagDirective (handle start : String)
  | documentStart | documentStop
  | sequenceOpen | mappingOpen | blockClose
  | flowSequenceOpen | flowSequenceClose | flowMappingOpen | flowMappingClose
  | entry | flowEntry | key | value
  | alias (name : String)
  | anchor (name : String)
  | tag (handle suffix : String)
  | scalar (text : String) (style : Style)
  deriving DecidableEq, Inhabited

/-- A place where a key may turn out to begin. In a block at the indentation of a mapping it has to
be one. -/
structure KeyPlace where
  required : Bool
  number : Nat
  index : Nat
  line : Nat
  column : Nat

structure Scan where
  cursor : Cursor
  tokens : Array Token := #[]
  /-- The nesting of flow collections. -/
  flow : Nat := 0
  indent : Int := -1
  /-- The indentations around the current one. -/
  outer : List Int := []
  keyAllowed : Bool := true
  /-- The place of a key in the innermost flow collection, or in the block. -/
  place : Option KeyPlace := none
  /-- The places of keys around it. -/
  places : List (Option KeyPlace) := []

abbrev Scanner := StateT Scan Option

namespace Scanner

def cursor : Scanner Cursor := return (← get).cursor

def setCursor (c : Cursor) : Scanner Unit := modify ({ · with cursor := c })

def skip (n : Nat) : Scanner Unit := do setCursor ((← cursor).skip n)

def add (t : Token) : Scanner Unit := modify fun s => { s with tokens := s.tokens.push t }

def allowKey (allowed : Bool) : Scanner Unit := modify ({ · with keyAllowed := allowed })

/-! ## Blanks, indentation and keys -/

/-- Passes over blanks, comments and line breaks before a token. A tab does not indent a block. -/
def skipGap : Nat → Scanner Unit
  | 0 => pure ()
  | fuel + 1 => do
    let s ← get
    let c := if s.cursor.column = 0 && s.cursor.rest.head? == some '\uFEFF' then s.cursor.skip 1
      else s.cursor
    let tabs := s.flow != 0 || !s.keyAllowed
    let c := c.skipWhile fun ch => ch = ' ' || (tabs && ch = '\t')
    let c := if c.rest.head? == some '#' then c.skipLine else c
    match c.break? with
    | some (_, c) =>
      set { s with cursor := c, keyAllowed := s.keyAllowed || s.flow = 0 }
      skipGap fuel
    | none => setCursor c

/-- Gives up a place; that fails if a key is required there. -/
def give (place : Option KeyPlace) : Option (Option KeyPlace) :=
  if place.any (·.required) then none else some none

def dropPlace : Scanner Unit := do
  let s ← get
  let place ← (give s.place : Option _)
  set { s with place }

/-- A key must stand on one line and within 1024 characters. -/
def fresh (c : Cursor) (place : Option KeyPlace) : Option (Option KeyPlace) :=
  match place with
  | some p => if p.line < c.line || p.index + 1024 < c.index then give place else some place
  | none => some none

def dropStale : Scanner Unit := do
  let s ← get
  let place ← (fresh s.cursor s.place : Option _)
  let places ← (s.places.mapM (fresh s.cursor) : Option _)
  set { s with place, places }

/-- Holds the place of a key before the next token. -/
def holdPlace : Scanner Unit := do
  let s ← get
  if s.keyAllowed then
    dropPlace
    let c := s.cursor
    let place : KeyPlace :=
      ⟨s.flow = 0 && s.indent = c.column, s.tokens.size, c.index, c.line, c.column⟩
    modify ({ · with place := some place })

def insert (number : Nat) (t : Token) : Scanner Unit :=
  modify fun s => { s with tokens := s.tokens.insertIdxIfInBounds number t }

/-- Opens a collection at a column that is further in, with a token at the given place. -/
def indentTo (column number : Nat) (t : Token) : Scanner Unit := do
  let s ← get
  if s.flow = 0 && s.indent < column then
    set { s with indent := column, outer := s.indent :: s.outer }
    insert number t

/-- The collections that end where a line begins at the column: what is left of the indentations,
and how many. -/
def unwind (column : Int) : Int → List Int → Int × List Int × Nat
  | indent, [] => (indent, [], 0)
  | indent, around :: outer =>
    if column < indent then
      let (indent, outer, n) := unwind column around outer
      (indent, outer, n + 1)
    else (indent, around :: outer, 0)

def unindentTo (column : Int) : Scanner Unit :=
  modify fun s =>
    if s.flow != 0 then s
    else
      let (indent, outer, n) := unwind column s.indent s.outer
      { s with indent, outer, tokens := s.tokens ++ Array.replicate n .blockClose }

/-! ## Directives, anchors and tags -/

def name : Scanner String := do
  let (name, c) := (← cursor).takeWhile isNameChar
  if name.isEmpty then failure
  setCursor c
  return String.ofList name

def isTagChar (verbatim : Bool) (c : Char) : Bool :=
  isNameChar c || ";/?:@&=+$.%!~*'()".toList.contains c || (verbatim && ",[]".toList.contains c)

/-- The number of octets of a character, by its first. -/
def octetCount? (lead : Nat) : Option Nat :=
  if lead < 0x80 then some 1
  else if lead / 0x20 = 6 then some 2
  else if lead / 0x10 = 14 then some 3
  else if lead / 8 = 30 then some 4
  else none

def octet? : List Char → Option Nat
  | '%' :: a :: b :: _ => do return (← Hex.value? a) * 16 + (← Hex.value? b)
  | _ => none

def trailing? : Nat → List Char → Option (List Char)
  | 0, _ => some []
  | n + 1, cs => do
    let o ← octet? cs
    if o / 0x40 = 2 then return Char.ofNat o :: (← trailing? n (cs.drop 3)) else none

/-- The escaped octets of one character, each kept as the character of its code. -/
def octets? (cs : List Char) : Option (List Char) := do
  let lead ← octet? cs
  return Char.ofNat lead :: (← trailing? ((← octetCount? lead) - 1) (cs.drop 3))

/-- The characters of a tag with its escapes undone, and how far it goes. -/
def tagChars? (verbatim : Bool) : Nat → List Char → Option (List Char × Nat)
  | 0, _ => some ([], 0)
  | fuel + 1, cs =>
    match cs with
    | [] => some ([], 0)
    | c :: rest =>
      if c = '%' then do
        let octets ← octets? cs
        let (more, n) ← tagChars? verbatim fuel (cs.drop (3 * octets.length))
        return (octets ++ more, n + 3 * octets.length)
      else if isTagChar verbatim c then
        (tagChars? verbatim fuel rest).map fun (more, n) => (c :: more, n + 1)
      else some ([], 0)

def tagChars (verbatim : Bool) : Scanner String := do
  let c ← cursor
  let (chars, n) ← (tagChars? verbatim c.rest.length c.rest : Option _)
  setCursor (c.skip n)
  return String.ofList chars

/-- A handle: `!`, `!!` or `!name!`, or else the beginning of a suffix. -/
def handle : Scanner String := do
  let c ← cursor
  if c.rest.head? != some '!' then failure
  let (name, after) := (c.skip 1).takeWhile isNameChar
  if after.rest.head? == some '!' then
    setCursor (after.skip 1)
    return String.ofList ('!' :: name ++ ['!'])
  else
    setCursor after
    return String.ofList ('!' :: name)

def number : Scanner Nat := do
  let (digits, c) := (← cursor).takeWhile Char.isDigit
  if digits.isEmpty || 9 < digits.length then failure
  setCursor c
  return digits.foldl (fun n d => n * 10 + (d.toNat - 48)) 0

def skipBlanks : Scanner Unit := do setCursor ((← cursor).skipWhile isBlank)

/-- A directive `%YAML` or `%TAG`, with the rest of its line. -/
def directive : Scanner Unit := do
  skip 1
  let kind ← name
  if !atGap (← cursor).rest then failure
  skipBlanks
  match kind with
  | "YAML" =>
    let major ← number
    if (← cursor).rest.head? != some '.' then failure
    skip 1
    add (.version major (← number))
  | "TAG" =>
    let sign ← handle
    if sign != "!" && !(1 < sign.length && sign.endsWith "!") then failure
    if !((← cursor).rest.head?.any isBlank) then failure
    skipBlanks
    let start ← tagChars true
    if start.isEmpty || !atGap (← cursor).rest then failure
    add (.tagDirective sign start)
  | _ => failure
  skipBlanks
  let c ← cursor
  let c := if c.rest.head? == some '#' then c.skipLine else c
  if !atLineEnd c.rest then failure
  setCursor c.skipBreak

/-- An anchor or an alias, behind its sign. -/
def anchorName : Scanner String := do
  skip 1
  let name ← name
  let rest := (← cursor).rest
  if atGap rest || rest.head?.any "?:,]\x7d%@\x60".toList.contains then return name else failure

def tag : Scanner Unit := do
  let verbatim := (← cursor).rest.drop 1 |>.head? |>.any (· = '<')
  let (sign, suffix) ← do
    if verbatim then
      skip 2
      let suffix ← tagChars true
      if suffix.isEmpty || (← cursor).rest.head? != some '>' then failure
      skip 1
      pure ("", suffix)
    else
      let start ← handle
      let more ← tagChars false
      if 1 < start.length && start.endsWith "!" then
        if more.isEmpty then failure
        pure (start, more)
      else
        let suffix := String.ofList (start.toList.drop 1) ++ more
        pure (if suffix.isEmpty then ("", "!") else ("!", suffix))
  let s ← get
  let rest := s.cursor.rest
  if !(atGap rest || (s.flow != 0 && rest.head? == some ',')) then failure
  add (.tag sign suffix)

/-! ## Tokens -/

/-- A token of one character, or of a given length. -/
def sign (t : Token) (n : Nat) : Scanner Unit := do
  skip n
  add t

def documentMark (t : Token) : Scanner Unit := do
  unindentTo (-1)
  dropPlace
  allowKey false
  sign t 3

def flowOpen (t : Token) : Scanner Unit := do
  holdPlace
  modify fun s => { s with
    flow := s.flow + 1, places := s.place :: s.places, place := none, keyAllowed := true }
  sign t 1

def flowClose (t : Token) : Scanner Unit := do
  dropPlace
  modify fun s => match s.places with
    | place :: places => { s with flow := s.flow - 1, place, places }
    | [] => s
  allowKey false
  sign t 1

def flowEntry : Scanner Unit := do
  dropPlace
  allowKey true
  sign .flowEntry 1

/-- In a block, a sign that opens a collection stands where a key may stand. -/
def openAt (t : Token) : Scanner Unit := do
  let s ← get
  if s.flow = 0 then
    if !s.keyAllowed then failure
    indentTo s.cursor.column s.tokens.size t

def blockEntry : Scanner Unit := do
  openAt .sequenceOpen
  dropPlace
  allowKey true
  sign .entry 1

def key : Scanner Unit := do
  openAt .mappingOpen
  dropPlace
  allowKey ((← get).flow = 0)
  sign .key 1

def value : Scanner Unit := do
  let s ← get
  match s.place with
  | some p =>
    insert p.number .key
    indentTo p.column p.number .mappingOpen
    modify ({ · with place := none, keyAllowed := false })
  | none =>
    openAt .mappingOpen
    allowKey (s.flow = 0)
  sign .value 1

def scalar (style : Style) (text : List Char) (c : Cursor) : Scanner Unit := do
  setCursor c
  add (.scalar (String.ofList text) style)

def quotedScalar (single : Bool) : Scanner Unit := do
  holdPlace
  allowKey false
  let c ← cursor
  let (text, c) ← (quoted single (c.rest.length + 1) [] (c.skip 1) : Option _)
  scalar .quoted text c

def blockScalar (literal : Bool) : Scanner Unit := do
  dropPlace
  allowKey true
  let s ← get
  let (text, c) ← (block literal s.indent (s.cursor.skip 1) : Option _)
  scalar (if literal then .literal else .folded) text c

def plainScalar : Scanner Unit := do
  holdPlace
  let s ← get
  let (text, crossed, c) ← (plain (s.flow != 0) (s.indent + 1).toNat (s.cursor.rest.length + 1) []
    (.blanks []) s.cursor : Option _)
  allowKey crossed
  scalar .plain text c

def indicators : List Char := "-?:,[]\x7b\x7d#&*!|>'\"%@\x60".toList

/-- Whether a plain scalar can begin here. -/
def startsPlain (flow : Bool) : List Char → Bool
  | [] => false
  | c :: rest =>
    (!isGap c && !indicators.contains c) ||
    (c = '-' && !(rest.head?.any isBlank)) ||
    (!flow && (c = '?' || c = ':') && !atGap rest)

/-- Reads one token at the cursor, which is at no blank and not at the end. -/
def next : Scanner Unit := do
  let s ← get
  let c := s.cursor
  let flow := s.flow != 0
  let gapped := atGap c.rest.tail
  let sign := c.rest.head?.getD ' '
  if c.column = 0 && sign = '%' then
    unindentTo (-1)
    dropPlace
    allowKey false
    directive
  else if c.atMark '-' then documentMark .documentStart
  else if c.atMark '.' then documentMark .documentStop
  else if sign = '[' then flowOpen .flowSequenceOpen
  else if sign = '{' then flowOpen .flowMappingOpen
  else if sign = ']' then flowClose .flowSequenceClose
  else if sign = '}' then flowClose .flowMappingClose
  else if sign = ',' then flowEntry
  else if sign = '-' && gapped then blockEntry
  else if sign = '?' && (flow || gapped) then key
  else if sign = ':' && (flow || gapped) then value
  else if sign = '*' || sign = '&' then
    holdPlace
    allowKey false
    let name ← anchorName
    add (if sign = '*' then .alias name else .anchor name)
  else if sign = '!' then
    holdPlace
    allowKey false
    tag
  else if sign = '|' && !flow then blockScalar true
  else if sign = '>' && !flow then blockScalar false
  else if sign = '\'' then quotedScalar true
  else if sign = '"' then quotedScalar false
  else if startsPlain flow c.rest then plainScalar
  else failure

/-- Reads all tokens; each takes a character at least. -/
def all : Nat → Scanner Unit
  | 0 => failure
  | fuel + 1 => do
    skipGap ((← cursor).rest.length + 1)
    dropStale
    unindentTo (← cursor).column
    if (← cursor).rest.isEmpty then
      unindentTo (-1)
      dropPlace
    else
      next
      all fuel

end Scanner

/-- The tokens of a text, if it holds nothing but allowed characters and can be cut into tokens. -/
def tokens? (text : List Char) : Option (List Token) := do
  if !text.all isAllowed then none
  let (_, s) ← (Scanner.all (text.length + 1)).run { cursor := { rest := text } }
  return s.tokens.toList

end EventTally.Yaml
