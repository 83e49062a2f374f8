/-! A place in a YAML text: what follows it, and its index, line and column, counted in
characters. -/

namespace EventTally.Yaml

def isBlank (c : Char) : Bool := c = ' ' || c = '\t'

def isBreak (c : Char) : Bool :=
  c = '\n' || c = '\r' || c = '\x85' || c = '\u2028' || c = '\u2029'

def isGap (c : Char) : Bool := isBlank c || isBreak c

/-- At a line break or the end. -/
def atLineEnd : List Char → Bool
  | c :: _ => isBreak c
  | [] => true

/-- At a blank, a line break or the end. -/
def atGap : List Char → Bool
  | c :: _ => isGap c
  | [] => true

/-- The characters that a text may hold. -/
def isAllowed (c : Char) : Bool :=
  let n := c.toNat
  n == 9 || n == 10 || n == 13 || (0x20 ≤ n && n ≤ 0x7E) || n == 0x85 ||
  (0xA0 ≤ n && n ≤ 0xFFFD) || 0x10000 ≤ n

/-- The characters of names of anchors and directives. -/
def isNameChar (c : Char) : Bool := c.isAlphanum || c = '_' || c = '-'

structure Cursor where
  rest : List Char
  index : Nat := 0
  line : Nat := 0
  column : Nat := 0

namespace Cursor

/-- Passes over characters that are no line breaks. -/
def skip (c : Cursor) (n : Nat) : Cursor :=
  { c with rest := c.rest.drop n, index := c.index + n, column := c.column + n }

def takeWhile (c : Cursor) (p : Char → Bool) : List Char × Cursor :=
  let taken := c.rest.takeWhile p
  (taken, c.skip taken.length)

def skipWhile (c : Cursor) (p : Char → Bool) : Cursor := (c.takeWhile p).2

def skipLine (c : Cursor) : Cursor := c.skipWhile (!isBreak ·)

/-- Passes over a line break; it counts as a line feed unless it is a separator of its own. -/
def break? (c : Cursor) : Option (Char × Cursor) :=
  let after (n : Nat) (rest : List Char) : Cursor := ⟨rest, c.index + n, c.line + 1, 0⟩
  match c.rest with
  | '\r' :: '\n' :: rest => some ('\n', after 2 rest)
  | '\u2028' :: rest => some ('\u2028', after 1 rest)
  | '\u2029' :: rest => some ('\u2029', after 1 rest)
  | b :: rest => if isBreak b then some ('\n', after 1 rest) else none
  | [] => none

/-- Passes over a line break if there is one. -/
def skipBreak (c : Cursor) : Cursor := (c.break?.map (·.2)).getD c

/-- The mark `---` or `...` at the start of a line. -/
def atMark (c : Cursor) (sign : Char) : Bool :=
  c.column == 0 && [sign, sign, sign].isPrefixOf c.rest && atGap (c.rest.drop 3)

def atDocumentMark (c : Cursor) : Bool := c.atMark '-' || c.atMark '.'

end Cursor
end EventTally.Yaml
