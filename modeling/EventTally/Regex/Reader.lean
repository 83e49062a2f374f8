import EventTally.Regex.Syntax
import EventTally.Text.Blank
import EventTally.Unicode.Property

/-! Reading the text of a regular expression. Under the flag `x`, blanks and comments between the
parts of an expression are skipped. A loop's fuel is the length of the text, since each turn takes a
character. -/

namespace EventTally.Regex.Reader

structure State where
  rest : List Char
  blanks : Bool := false
  groups : Nat := 0
  names : List String := []

abbrev Read := StateT State Option

/-- Drops blanks and comments; the flag says that a comment is open. -/
def dropBlanks (comment : Bool) : List Char → List Char
  | [] => []
  | c :: r =>
    if comment then dropBlanks (c != '\n') r
    else if Text.isBlank c then dropBlanks false r
    else if c = '#' then dropBlanks true r
    else c :: r

def peek? : Read (Option Char) := do return (← get).rest.head?

def peek : Read Char := do (← peek?).elim failure pure

def skipBlanks : Read Unit :=
  modify fun s => if s.blanks then { s with rest := dropBlanks false s.rest } else s

def advance : Read Unit := modify fun s => { s with rest := s.rest.tail }

def next : Read Char := do
  let c ← peek
  advance
  return c

/-- The next character; the blanks after it are skipped. -/
def nextSkipping : Read Char := do
  let c ← next
  skipBlanks
  return c

def expect (c : Char) : Read Unit := do
  if (← next) != c then failure

/-- Takes the text if it comes next. -/
def takeIf (text : String) : Read Bool := do
  let s ← get
  if text.toList.isPrefixOf s.rest then
    set { s with rest := s.rest.drop text.length }
    return true
  else return false

/-- What follows the next character: with blanks skipped, the second is looked for behind blanks and
at most one comment sign. -/
def second? (s : State) : Option Char :=
  if s.blanks then
    match s.rest.tail.dropWhile Text.isBlank with
    | '#' :: more => (more.dropWhile Text.isBlank).head?
    | more => more.head?
  else s.rest.tail.head?

def takeWhile (p : Char → Bool) : Nat → Read (List Char)
  | 0 => pure []
  | n + 1 => do
    match ← peek? with
    | some c =>
      if p c then
        let _ ← nextSkipping
        return c :: (← takeWhile p n)
      else return []
    | none => return []

/-! ## Numbers -/

def decimal (fuel : Nat) : Read Nat := do
  modify fun s => { s with rest := s.rest.dropWhile Text.isBlank }
  let digits ← takeWhile Char.isDigit fuel
  modify fun s => { s with rest := s.rest.dropWhile Text.isBlank }
  skipBlanks
  if digits.isEmpty then failure
  let n := digits.foldl (fun n c => n * 10 + (c.toNat - 48)) 0
  if n < 0x100000000 then return n else failure

def isHex (c : Char) : Bool :=
  c.isDigit || ('a' ≤ c && c ≤ 'f') || ('A' ≤ c && c ≤ 'F')

def charOfHex (digits : List Char) : Read Char := do
  let n := CharSet.hexValue (digits.map Char.toLower)
  if digits.isEmpty then failure
  if n.isValidChar then return Char.ofNat n else failure

def hexDigits : Nat → Read (List Char)
  | 0 => pure []
  | n + 1 => do
    skipBlanks
    let c ← next
    if isHex c then return c :: (← hexDigits n) else failure

/-- The character of an escape `\x`, `\u` or `\U`, and whether it has the form of a byte. -/
def hexEscape (fuel : Nat) : Read (Char × Bool) := do
  let kind ← nextSkipping
  if (← peek) = '{' then
    let _ ← nextSkipping
    let digits ← takeWhile (· != '}') fuel
    let _ ← nextSkipping
    if digits.all isHex then return (← charOfHex digits, false) else failure
  else
    let digits ← hexDigits (if kind = 'x' then 2 else if kind = 'u' then 4 else 8)
    skipBlanks
    return (← charOfHex digits, kind = 'x')

/-! ## Classes -/

def splitAt? (mark : List Char) : List Char → Option (List Char × List Char)
  | [] => none
  | c :: r =>
    if mark.isPrefixOf (c :: r) then some ([], (c :: r).drop mark.length)
    else (splitAt? mark r).map fun (a, b) => (c :: a, b)

def propertyName (name : List Char) : PropertyQuery × Bool :=
  let both (a b : List Char) := PropertyQuery.value (String.ofList a) (String.ofList b)
  match splitAt? ['!', '='] name, splitAt? [':'] name, splitAt? ['='] name with
  | some (a, b), _, _ => (both a b, true)
  | none, some (a, b), _ => (both a b, false)
  | none, none, some (a, b) => (both a b, false)
  | none, none, none => (.name (String.ofList name), false)

/-- A class `\pX`, `\p{…}` or its negation under `\P`. -/
def propertyClass (fuel : Nat) : Read ClassTree := do
  let kind ← nextSkipping
  if (← peek) = '{' then
    let _ ← nextSkipping
    let name ← takeWhile (· != '}') fuel
    expect '}'
    let (query, differs) := propertyName name
    return .property query ((kind = 'P') != differs)
  else
    let c ← nextSkipping
    if c = '\\' then failure
    return .property (.name (String.singleton c)) (kind = 'P')

def shorthand? : Char → Option ClassTree
  | 'd' => some (.shorthand .digit false)
  | 's' => some (.shorthand .space false)
  | 'w' => some (.shorthand .word false)
  | 'D' => some (.shorthand .digit true)
  | 'S' => some (.shorthand .space true)
  | 'W' => some (.shorthand .word true)
  | _ => none

def asciiClasses : List (String × List (Nat × Nat)) := [
  ("alnum", [(48, 57), (65, 90), (97, 122)]),
  ("alpha", [(65, 90), (97, 122)]),
  ("ascii", [(0, 127)]),
  ("blank", [(9, 9), (32, 32)]),
  ("cntrl", [(0, 31), (127, 127)]),
  ("digit", [(48, 57)]),
  ("graph", [(33, 126)]),
  ("lower", [(97, 122)]),
  ("print", [(32, 126)]),
  ("punct", [(33, 47), (58, 64), (91, 96), (123, 126)]),
  ("space", [(9, 13), (32, 32)]),
  ("upper", [(65, 90)]),
  ("word", [(48, 57), (65, 90), (95, 95), (97, 122)]),
  ("xdigit", [(48, 57), (65, 70), (97, 102)])]

/-- A class such as `[:^alpha:]` at the front of the text, with what follows it. -/
def asciiClass? (text : List Char) : Option (ClassTree × List Char) :=
  match text with
  | '[' :: ':' :: more =>
    let (negated, named) := match more with
      | '^' :: named => (true, named)
      | named => (false, named)
    match named.dropWhile (· != ':') with
    | ':' :: ']' :: rest =>
      (asciiClasses.lookup (String.ofList (named.takeWhile (· != ':')))).map fun ranges =>
        (.ascii ranges negated, rest)
    | _ => none
  | _ => none

/-! ## Escapes -/

inductive Escape where
  | char (c : Char) (byte : Bool)
  | chars (c : ClassTree)
  | anchor (a : Anchor)

def Escape.tree : Escape → Tree
  | .char c byte => .char c byte
  | .chars c => .chars c
  | .anchor a => .anchor a

def metaChars : List Char := "\\.+*?()|[]\x7b\x7d^$#&-~".toList

/-- All of ASCII that neither has a meaning as an escape nor may get one. -/
def isPlainEscape (c : Char) : Bool :=
  metaChars.contains c || (c.toNat < 128 && !c.isAlphanum && c != '<' && c != '>')

def wordEdges : List (String × WordEdge) :=
  [("start", .start), ("end", .stop), ("start-half", .startHalf), ("end-half", .stopHalf)]

/-- After `\b`: the name of an edge in braces. Braces whose content cannot be a name are left alone,
as they belong to a repetition. -/
def wordEdge (fuel : Nat) : Read WordEdge := do
  let before ← get
  if before.rest.head? != some '{' then return .boundary
  let isName (c : Char) := c.isAlpha || c = '-'
  let _ ← nextSkipping
  if !isName (← peek) then
    set before
    return .boundary
  let name ← takeWhile isName fuel
  expect '}'
  (wordEdges.lookup (String.ofList name)).elim failure pure

def escape (fuel : Nat) : Read Escape := do
  expect '\\'
  let c ← peek
  if c.isDigit then failure
  else if c = 'x' || c = 'u' || c = 'U' then
    let (c, byte) ← hexEscape fuel
    return .char c byte
  else if c = 'p' || c = 'P' then return .chars (← propertyClass fuel)
  else
    advance
    match shorthand? c with
    | some tree => return .chars tree
    | none =>
      if isPlainEscape c then return .char c false
      match c with
      | 'a' => return .char '\x07' false
      | 'f' => return .char '\x0C' false
      | 't' => return .char '\t' false
      | 'n' => return .char '\n' false
      | 'r' => return .char '\r' false
      | 'v' => return .char '\x0B' false
      | 'A' => return .anchor .textStart
      | 'z' => return .anchor .textStop
      | 'b' => return .anchor (.word (← wordEdge fuel))
      | 'B' => return .anchor (.word .inner)
      | '<' => return .anchor (.word .start)
      | '>' => return .anchor (.word .stop)
      | _ => failure

/-! ## Bracketed classes -/

def classPart (fuel : Nat) : Read Escape := do
  if (← peek) = '\\' then escape fuel else return .char (← next) false

/-- A part of a bracketed class: a class, a character, or a range of characters. A hyphen before the
closing bracket or before another hyphen starts no range. -/
def classItem (fuel : Nat) : Read ClassTree := do
  let first ← classPart fuel
  skipBlanks
  let c ← peek
  let s ← get
  if c != '-' || second? s == some ']' || second? s == some '-' then
    match first with
    | .char a _ => return .char a
    | .chars tree => return tree
    | .anchor _ => failure
  else
    let _ ← nextSkipping
    match first, ← classPart fuel with
    | .char a _, .char b _ => if a ≤ b then return .range a b else failure
    | _, _ => failure

def leadingHyphens : Nat → Read (List ClassTree)
  | 0 => failure
  | n + 1 => do
    if (← peek) = '-' then
      let _ ← nextSkipping
      return .char '-' :: (← leadingHyphens n)
    else return []

/-- The start of a bracketed class: whether it is negated, and the hyphens or the closing bracket
that stand first and mean themselves. -/
def classStart (fuel : Nat) : Read (Bool × List ClassTree) := do
  expect '['
  skipBlanks
  let negated := (← peek) = '^'
  if negated then
    let _ ← nextSkipping
  let hyphens ← leadingHyphens fuel
  if hyphens.isEmpty && (← peek) = ']' then
    let _ ← nextSkipping
    return (negated, [.char ']'])
  else return (negated, hyphens)

/-- Joins the operand just read to what stands left of it. -/
def joinOperand (left : Option (SetOp × ClassTree)) (items : List ClassTree) : ClassTree :=
  match left with
  | none => ClassTree.ofItems items.reverse
  | some (op, tree) => .combine op tree (ClassTree.ofItems items.reverse)

def setOps : List (String × SetOp) := [("&&", .inter), ("--", .diff), ("~~", .symmDiff)]

/-- The rest of a bracketed class, up to its closing bracket; items are collected in reverse. -/
def classBody : Nat → Option (SetOp × ClassTree) → List ClassTree → Read ClassTree
  | 0, _, _ => failure
  | fuel + 1, left, items => do
    skipBlanks
    let s ← get
    match s.rest with
    | [] => failure
    | ']' :: _ =>
      advance
      return joinOperand left items
    | '[' :: _ =>
      match asciiClass? s.rest with
      | some (tree, rest) =>
        set { s with rest }
        classBody fuel left (tree :: items)
      | none =>
        let (negated, first) ← classStart fuel
        let body ← classBody fuel none first.reverse
        classBody fuel left (.bracket negated body :: items)
    | text =>
      match setOps.find? fun (sign, _) => sign.toList.isPrefixOf text with
      | some (_, op) =>
        advance
        advance
        classBody fuel (some (op, joinOperand left items)) []
      | none => classBody fuel left ((← classItem fuel) :: items)

def bracketed (fuel : Nat) : Read ClassTree := do
  let (negated, first) ← classStart fuel
  return .bracket negated (← classBody fuel none first.reverse)

/-! ## Groups and flags -/

def Toggles.set? (t : Toggles) (c : Char) (on : Bool) : Option Toggles :=
  match c with
  | 'i' => if t.ignoreCase.isNone then some { t with ignoreCase := some on } else none
  | 'm' => if t.multiLine.isNone then some { t with multiLine := some on } else none
  | 's' => if t.dotAll.isNone then some { t with dotAll := some on } else none
  | 'U' => if t.swapGreed.isNone then some { t with swapGreed := some on } else none
  | 'u' => if t.unicode.isNone then some { t with unicode := some on } else none
  | 'R' => if t.crlf.isNone then some { t with crlf := some on } else none
  | 'x' => if t.blanks.isNone then some { t with blanks := some on } else none
  | _ => none

/-- Flags up to a colon or a closing parenthesis. Each may be named once, a minus may stand once,
and a flag must follow it. -/
def toggles : Nat → Toggles → Bool → Read Toggles
  | 0, _, _ => failure
  | fuel + 1, t, on => do
    match ← peek with
    | ':' | ')' => return t
    | '-' =>
      advance
      let c ← peek
      if !on || c = ':' || c = ')' then failure else toggles fuel t false
    | c =>
      advance
      match Toggles.set? t c on with
      | some t => toggles fuel t on
      | none => failure

def numeric : CharSet := Unicode.ofCategories ["Nd", "Nl", "No"]

def alphabetic : CharSet := (Unicode.property? "alphabetic").getD .empty

def isNameStart (c : Char) : Bool := c = '_' || alphabetic.contains c

def isNameChar (c : Char) : Bool :=
  isNameStart c || c = '.' || c = '[' || c = ']' || numeric.contains c

/-- The name of a group, up to its closing angle. No two groups share a name. -/
def groupName : Read Unit := do
  let s ← get
  let name := s.rest.takeWhile (· != '>')
  match name, s.rest.dropWhile (· != '>') with
  | first :: others, _ :: rest =>
    let text := String.ofList name
    if isNameStart first && others.all isNameChar && !s.names.contains text then
      set { s with rest, names := text :: s.names }
    else failure
  | _, _ => failure

inductive Opening where
  | flags (t : Toggles)
  | group (t : Toggles)
  | capture (index : Nat)

def capture : Read Opening := do
  let s ← get
  set { s with groups := s.groups + 1 }
  return .capture (s.groups + 1)

/-- What an opening parenthesis starts. -/
def opening (fuel : Nat) : Read Opening := do
  expect '('
  skipBlanks
  let text := (← get).rest
  if ["?=", "?!", "?<=", "?<!"].any fun start => start.toList.isPrefixOf text then failure
  if (← takeIf "?P<") || (← takeIf "?<") then
    let group ← capture
    groupName
    return group
  else if ← takeIf "?" then
    let start := (← get).rest.head?
    let t ← toggles fuel {} true
    if (← next) = ':' then return .group t
    else if start = some ')' then failure
    else return .flags t
  else capture

/-! ## Repetition -/

/-- The bounds of a counted repetition, up to its closing brace. -/
def bounds (fuel : Nat) : Read (Nat × Option Nat) := do
  expect '{'
  skipBlanks
  let low ← decimal fuel
  let range ← do
    if (← peek) = ',' then
      let _ ← nextSkipping
      if (← peek) = '}' then pure (low, none) else pure (low, some (← decimal fuel))
    else pure (low, some low)
  expect '}'
  match range with
  | (low, some high) => if low ≤ high then return range else failure
  | _ => return range

/-- Whether a repetition is greedy, that is, no question mark follows it. -/
def greedy : Read Bool := do return !(← takeIf "?")

/-- Repeats the last part. -/
def repeatLast (min : Nat) (max : Option Nat) (greedy : Bool) : List Tree → Read (List Tree)
  | [] | .toggles _ :: _ => failure
  | part :: parts => return .repeat min max greedy part :: parts

/-- Branches up to a closing parenthesis or the end; branches and parts are collected in reverse. -/
def body : Nat → List Tree → List Tree → Read Tree
  | 0, _, _ => failure
  | fuel + 1, branches, parts => do
    skipBlanks
    match ← peek? with
    | none | some ')' =>
      return Tree.ofBranches (Tree.ofParts parts.reverse :: branches).reverse
    | some '|' =>
      advance
      body fuel (Tree.ofParts parts.reverse :: branches) []
    | some '(' =>
      match ← opening fuel with
      | .flags t =>
        modify fun s => { s with blanks := t.blanks.getD s.blanks }
        body fuel branches (.toggles t :: parts)
      | .group t =>
        let outer := (← get).blanks
        modify fun s => { s with blanks := t.blanks.getD outer }
        let inner ← body fuel [] []
        expect ')'
        modify fun s => { s with blanks := outer }
        body fuel branches (.group t inner :: parts)
      | .capture index =>
        let outer := (← get).blanks
        let inner ← body fuel [] []
        expect ')'
        modify fun s => { s with blanks := outer }
        body fuel branches (.capture index inner :: parts)
    | some '[' => body fuel branches (.chars (← bracketed fuel) :: parts)
    | some '?' =>
      advance
      body fuel branches (← repeatLast 0 (some 1) (← greedy) parts)
    | some '*' =>
      advance
      body fuel branches (← repeatLast 0 none (← greedy) parts)
    | some '+' =>
      advance
      body fuel branches (← repeatLast 1 none (← greedy) parts)
    | some '{' =>
      let (low, high) ← bounds fuel
      skipBlanks
      body fuel branches (← repeatLast low high (← greedy) parts)
    | some '\\' => body fuel branches ((← escape fuel).tree :: parts)
    | some c =>
      advance
      body fuel branches ((match c with
        | '.' => .dot
        | '^' => .anchor .caret
        | '$' => .anchor .dollar
        | c => .char c false) :: parts)

/-- The syntax tree of a text, if it is well formed and nests no deeper than the limit. -/
def read? (text : String) : Option Tree :=
  let chars := text.toList
  match (body (chars.length + 1) [] []).run ⟨chars, false, 0, []⟩ with
  | some (tree, s) => if s.rest.isEmpty && tree.depth ≤ depthLimit then some tree else none
  | none => none

end EventTally.Regex.Reader
