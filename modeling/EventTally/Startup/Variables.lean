import EventTally.File.Path
import EventTally.File.Entry
import EventTally.StringMap
import EventTally.Text.Blank
import EventTally.Unicode.Category
import EventTally.Unicode.Property

/-! Variables from a file: lines of a name, an equals sign and a value. Values may be quoted, over
several lines, and take in the values of other variables. Variables that are set already stay as
they are, and a line that cannot be read ends the reading. -/

namespace EventTally

abbrev Variables := StringMap String

namespace Variables

/-! ## Lines -/

/-- Where a character stands: outside of quotes, behind blanks there, in single or double quotes, or
behind a backslash in one of these. -/
inductive Quoting where
  | plain | behindBlank | escape | double | doubleEscape | single | singleEscape
  deriving DecidableEq

/-- What comes after a character; a number sign behind a blank starts a comment. -/
def Quoting.step? : Quoting → Char → Option Quoting
  | behindBlank, '#' => none
  | plain, c | behindBlank, c =>
    if c = '\\' then some escape
    else if c = '"' then some double
    else if c.toNat = 0x27 then some single
    else some plain
  | escape, _ => some plain
  | double, c => some (if c = '\\' then doubleEscape else if c = '"' then plain else double)
  | doubleEscape, _ => some double
  | single, c => some (if c = '\\' then singleEscape else if c.toNat = 0x27 then plain else single)
  | singleEscape, _ => some single

def isLineBlank (c : Char) : Bool := Text.isBlank c && c ≠ '\n' && c ≠ '\r'

/-- The state behind a line, and the line before its comment if it has one. -/
def scanLine (q : Quoting) : List Char → Quoting ⊕ List Char
  | [] => .inl q
  | c :: rest =>
    let next := if q = .plain && isLineBlank c then some .behindBlank else q.step? c
    match next with
    | none => .inr []
    | some q =>
      match scanLine q rest with
      | .inl q => .inl q
      | .inr kept => .inr (c :: kept)

def dropBreak (cs : List Char) : List Char :=
  match cs.reverse with
  | '\n' :: '\r' :: rest => rest.reverse
  | '\n' :: rest => rest.reverse
  | _ => cs

def isCommentLine (cs : List Char) : Bool := (Text.trimStart cs).head? = some '#'

/-- Joins lines while a quote is open. A line that cannot be read, or a quote that stays open, is
given as none, and is the last. -/
def joinLines (pending : List Char) (q : Quoting) : List (Option String) → List (Option (List Char))
  | [] => if q = .plain then [] else [none]
  | none :: _ => [none]
  | some line :: rest =>
    let text := pending ++ line.toList
    if isCommentLine text then joinLines [] .plain rest
    else
      match scanLine q line.toList with
      | .inr kept => some (pending ++ kept) :: joinLines [] .plain rest
      | .inl .plain => some (dropBreak text) :: joinLines [] .plain rest
      | .inl q => joinLines text q rest

def newline : UInt8 := 10

/-- The lines of a text with their breaks. -/
def breakLines (bytes : Bytes) : List Bytes :=
  let lines := bytes.splitOn newline
  (lines.dropLast.map (· ++ [newline]) ++ [lines.getLast?.getD []]).filter (!·.isEmpty)

def byteOrderMark : Bytes := [0xEF, 0xBB, 0xBF]

def linesOf (bytes : Bytes) : List (Option (List Char)) :=
  let bytes := if byteOrderMark.isPrefixOf bytes then bytes.drop 3 else bytes
  joinLines [] .plain ((breakLines bytes).map Utf8.decode?)

/-! ## Values -/

def alphanumeric : CharSet :=
  ((Unicode.property? "alphabetic").getD .empty).union (Unicode.ofCategories ["Nd", "Nl", "No"])

/-- A value in progress: which quote is open, whether a backslash or the end of the value came last,
and the name of the variable that is being read, which may stand in braces. -/
structure Value where
  written : List Char := []
  inSingle : Bool := false
  inDouble : Bool := false
  escaped : Bool := false
  atEnd : Bool := false
  atComment : Bool := false
  naming : Bool := false
  braced : Bool := false
  name : List Char := []

namespace Value

def write (v : Value) (c : Char) : Value := { v with written := v.written ++ [c] }

/-- Puts in the value of the variable that was named. -/
def resolve (lookup : String → String) (v : Value) : Value :=
  { v with written := v.written ++ (lookup (String.ofList v.name)).toList, naming := false,
           braced := false, name := [] }

def openBrace : Char := Char.ofNat 0x7B
def closeBrace : Char := Char.ofNat 0x7D

def nameStep (lookup : String → String) (v : Value) (c : Char) : Value :=
  if alphanumeric.contains c then { v with name := v.name ++ [c] }
  else if v.braced then
    if c = closeBrace then v.resolve lookup else { v with name := v.name ++ [c] }
  else if c = openBrace && v.name.isEmpty then { v with braced := true }
  else
    let v := v.resolve lookup
    if c = '$' then { v with naming := true } else v.write c

def escapeStep? (v : Value) (c : Char) : Option Value :=
  let v := { v with escaped := false }
  if c = 'n' then some (v.write '\n')
  else if ['\\', Char.ofNat 0x27, '"', '$', ' '].contains c then some (v.write c)
  else none

def step? (lookup : String → String) (v : Value) (c : Char) : Option Value :=
  if v.atComment then some v
  else if v.atEnd then
    if c = ' ' || c = '\t' then some v
    else if c = '#' then some { v with atComment := true }
    else none
  else if v.escaped then v.escapeStep? c
  else if v.inSingle then
    some (if c.toNat = 0x27 then { v with inSingle := false } else v.write c)
  else if v.naming then some (v.nameStep lookup c)
  else if c = '$' then some { v with naming := true }
  else if c = '\\' then some { v with escaped := true }
  else if c = '"' then some { v with inDouble := !v.inDouble }
  else if v.inDouble then some (v.write c)
  else if c.toNat = 0x27 then some { v with inSingle := true }
  else if c = ' ' || c = '\t' then some { v with atEnd := true }
  else some (v.write c)

/-- The value, if no quote and no brace is open. -/
def finish? (lookup : String → String) (v : Value) : Option String :=
  if v.braced || v.inSingle || v.inDouble then none
  else some (String.ofList (v.resolve lookup).written)

def read? (lookup : String → String) (cs : List Char) : Option String := do
  (← cs.foldlM (step? lookup) {}).finish? lookup

end Value

/-! ## Assignments -/

def isNameStart (c : Char) : Bool := c.isAlpha || c = '_'

def isNameChar (c : Char) : Bool := c.isAlphanum || c = '_' || c = '.'

def name? (cs : List Char) : Option (String × List Char) :=
  if cs.head?.any isNameStart then
    some (String.ofList (cs.takeWhile isNameChar), Text.trimStart (cs.dropWhile isNameChar))
  else none

def equals? : List Char → Option (List Char)
  | '=' :: rest => some (Text.trimStart rest)
  | _ => none

/-- A name and its value. The word `export` may stand before the name. -/
def assignment? (lookup : String → String) (cs : List Char) : Option (String × String) := do
  let (name, rest) ← name? cs
  let (name, rest) ←
    if name = "export" && rest.head? ≠ some '=' then name? rest else some (name, rest)
  let value ← equals? rest
  if value.isEmpty || value.head? = some '#' then return (name, "")
  return (name, ← Value.read? lookup value)

/-- Variables as they are set, and the values that lines have given, which may differ. -/
structure Setting where
  current : Variables
  given : Variables := .empty

def Setting.lookup (s : Setting) (name : String) : String :=
  ((s.current.get? name).or (s.given.get? name)).getD ""

def Setting.assign (s : Setting) (name value : String) : Setting :=
  { current := if s.current.contains name then s.current else s.current.insert name value
    given := s.given.insert name value }

/-- Takes in lines up to the first that cannot be read. -/
def takeIn (s : Setting) : List (Option (List Char)) → Setting
  | [] => s
  | none :: _ => s
  | some line :: rest =>
    let line := Text.trimStart (Text.trimEnd line)
    if line.isEmpty || line.head? = some '#' then takeIn s rest
    else
      match assignment? s.lookup line with
      | none => s
      | some (name, value) => takeIn (s.assign name value) rest

/-! ## The file -/

def fileName : String := ".env"

/-- A directory and those that it lies in, up to the root. -/
def outward (directory : String) : List String :=
  let names := (directory.toList.splitOn '/').filter (!·.isEmpty)
  (List.range (names.length + 1)).reverse.map fun n =>
    "/" ++ Path.ofSegments (names.take n)

/-- The nearest file. What is there but cannot be looked at ends the search. -/
def nearest? : List String → FileLookup (Option Bytes)
  | [] => return none
  | directory :: rest => do
    match ← Dialogue.question (Path.join directory fileName) with
    | .file content => return content.toOption
    | .absent .notFound | .absent .isDirectory => nearest? rest
    | .absent _ => return none

/-- The variables after the nearest file has been read. -/
def load (directory : String) (vars : Variables) : FileLookup Variables := do
  match ← nearest? (outward directory) with
  | none => return vars
  | some bytes => return (takeIn { current := vars } (linesOf bytes)).current

end Variables
end EventTally
