import EventTally.Text.Hex
import EventTally.Yaml.Cursor

/-! The text of scalars. Inside a plain or a quoted scalar, a line break is folded into a blank and
further breaks stay; a block scalar keeps or folds the breaks of its lines, and its header says
which breaks at its end remain. Fuel is the length of the text that is left. -/

namespace EventTally.Yaml

/-- What separates the words of a scalar: blanks within a line, or breaks. The first break is
missing if it was escaped. -/
inductive Gap where
  | blanks (cs : List Char)
  | breaks (first : Option Char) (more : List Char)

def Gap.text : Gap → List Char
  | blanks cs => cs
  | breaks none more => more
  | breaks (some first) more =>
    if first != '\n' then first :: more else if more.isEmpty then [' '] else more

def Gap.crossesLine : Gap → Bool
  | blanks _ => false
  | breaks .. => true

/-- Passes over blanks and breaks. On a new line a tab may not stand left of the indentation. -/
def readGap (indent : Nat) : Nat → Gap → Cursor → Option (Gap × Cursor)
  | 0, g, c => some (g, c)
  | fuel + 1, g, c =>
    match c.break? with
    | some (b, next) =>
      readGap indent fuel (match g with
        | .blanks _ => .breaks (some b) []
        | .breaks first more => .breaks first (more ++ [b])) next
    | none =>
      match c.rest with
      | b :: _ =>
        if !isBlank b then some (g, c)
        else
          match g with
          | .blanks cs => readGap indent fuel (.blanks (cs ++ [b])) (c.skip 1)
          | g => if b = '\t' && c.column < indent then none else readGap indent fuel g (c.skip 1)
      | [] => some (g, c)

/-! ## Plain scalars -/

/-- A run of characters of a plain scalar without blanks. -/
def plainRun (flow : Bool) : List Char → Option (List Char)
  | [] => some []
  | c :: r =>
    if isGap c then some []
    else if flow && c = ':' && (r.head?.any ",?[]\x7b\x7d".toList.contains) then none
    else if (c = ':' && atGap r) || (flow && ",[]\x7b\x7d".toList.contains c) then some []
    else (plainRun flow r).map (c :: ·)

/-- The rest of a plain scalar whose text so far is given, and whether it ends on a later line than
its last word. Its further lines must be indented at least as told. -/
def plain (flow : Bool) (indent : Nat) :
    Nat → List Char → Gap → Cursor → Option (List Char × Bool × Cursor)
  | 0, _, _, _ => none
  | fuel + 1, text, g, c => do
    if c.atDocumentMark || c.rest.head? == some '#' then return (text, g.crossesLine, c)
    let run ← plainRun flow c.rest
    let (text, g) := if run.isEmpty then (text, g) else (text ++ g.text ++ run, .blanks [])
    let c := c.skip run.length
    if !(c.rest.head?.any isGap) then return (text, g.crossesLine, c)
    let (g, c) ← readGap indent (c.rest.length + 1) (.blanks []) c
    if !flow && c.column < indent then return (text, g.crossesLine, c)
    plain flow indent fuel text g c

/-! ## Quoted scalars -/

def escapes : List (Char × Char) := [
  ('0', '\x00'), ('a', '\x07'), ('b', '\x08'), ('t', '\t'), ('\t', '\t'), ('n', '\n'),
  ('v', '\x0B'), ('f', '\x0C'), ('r', '\r'), ('e', '\x1B'), (' ', ' '), ('"', '"'), ('/', '/'),
  ('\\', '\\'), ('N', '\x85'), ('_', '\xA0'), ('L', '\u2028'), ('P', '\u2029')]

def hexEscape? (digits : List Char) : Option Char := do
  let n ← Hex.number? digits
  if n.isValidChar then some (Char.ofNat n) else none

/-- The character of an escape, which follows a backslash, and the length of the escape. -/
def escape? : List Char → Option (Char × Nat)
  | [] => none
  | kind :: rest =>
    let hex (n : Nat) := do
      if rest.length < n then none
      else return (← hexEscape? (rest.take n), n + 1)
    match kind with
    | 'x' => hex 2
    | 'u' => hex 4
    | 'U' => hex 8
    | kind => (escapes.lookup kind).map (·, 1)

/-- The rest of a quoted scalar up to its closing quote; the text so far is in reverse. -/
def quoted (single : Bool) : Nat → List Char → Cursor → Option (List Char × Cursor)
  | 0, _, _ => none
  | fuel + 1, text, c =>
    let fold (g : Gap) (c : Cursor) := do
      let (g, c) ← readGap 0 (c.rest.length + 1) g c
      quoted single fuel (g.text.reverse ++ text) c
    if c.atDocumentMark then none
    else
      match c.rest with
      | [] => none
      | ch :: rest =>
        if single && ch = '\'' && rest.head? == some '\'' then
          quoted single fuel ('\'' :: text) (c.skip 2)
        else if ch = (if single then '\'' else '"') then some (text.reverse, c.skip 1)
        else if !single && ch = '\\' then
          match (c.skip 1).break? with
          | some (_, c) => fold (.breaks none []) c
          | none => do
            let (e, n) ← escape? rest
            quoted single fuel (e :: text) (c.skip (n + 1))
        else if isGap ch then fold (.blanks []) c
        else quoted single fuel (ch :: text) (c.skip 1)

/-! ## Block scalars -/

inductive Chomp where
  | strip | clip | keep

structure BlockHeader where
  chomp : Chomp := .clip
  /-- The indentation of the content beyond that of the parent, if it is given. -/
  indent : Option Nat := none

def chomp? : List Char → Option Chomp
  | '+' :: _ => some .keep
  | '-' :: _ => some .strip
  | _ => none

def indentDigit? : List Char → Option Nat
  | d :: _ => if d.isDigit then some (d.toNat - 48) else none
  | [] => none

/-- The indicators after `|` or `>`, in either order; the indentation cannot be zero. -/
def BlockHeader.read? (cs : List Char) : Option (BlockHeader × Nat) := do
  let (header, n) : BlockHeader × Nat := match chomp? cs, indentDigit? cs with
    | some chomp, _ =>
      match indentDigit? cs.tail with
      | some d => (⟨chomp, some d⟩, 2)
      | none => (⟨chomp, none⟩, 1)
    | none, some d =>
      match chomp? cs.tail with
      | some chomp => (⟨chomp, some d⟩, 2)
      | none => (⟨.clip, some d⟩, 1)
    | none, none => ({}, 0)
  if header.indent = some 0 then none else some (header, n)

/-- Passes over the indentation and empty lines. Without a limit, the widest indentation is
returned. A tab may not stand in the indentation. -/
def blockBreaks (limit : Option Nat) :
    Nat → Nat → List Char → Cursor → Option (Nat × List Char × Cursor)
  | 0, _, _, _ => none
  | fuel + 1, widest, breaks, c => do
    let inside (column : Nat) := limit.all (column < ·)
    let blanks := (c.rest.takeWhile (· = ' ')).length
    let c := c.skip (match limit with
      | some l => min blanks (l - c.column)
      | none => blanks)
    if inside c.column && c.rest.head? == some '\t' then none
    let widest := max widest c.column
    match c.break? with
    | some (b, c) => blockBreaks limit fuel widest (breaks ++ [b]) c
    | none => return (widest, breaks, c)

structure BlockText where
  text : List Char := []
  /-- The break after the last line, if it had one. -/
  last : List Char := []
  /-- The breaks of the empty lines after that. -/
  empty : List Char := []
  /-- Whether the last line began with a blank. -/
  indented : Bool := false

/-- Adds the lines that stand at the indentation. Between two lines of a folded scalar that do not
begin with a blank, a single break becomes a blank. -/
def blockLines (literal : Bool) (indent : Nat) :
    Nat → BlockText → Cursor → Option (BlockText × Cursor)
  | 0, _, _ => none
  | fuel + 1, t, c =>
    if c.column != indent || c.rest.isEmpty then some (t, c)
    else do
      let indented := c.rest.head?.any isBlank
      let joint :=
        if !literal && t.last == ['\n'] && !t.indented && !indented then
          if t.empty.isEmpty then [' '] else t.empty
        else t.last ++ t.empty
      let (line, c) := c.takeWhile (!isBreak ·)
      let (last, c) := match c.break? with
        | some (b, c) => ([b], c)
        | none => ([], c)
      let (_, empty, c) ← blockBreaks (some indent) (c.rest.length + 1) 0 [] c
      blockLines literal indent fuel ⟨t.text ++ joint ++ line, last, empty, indented⟩ c

/-- A block scalar from behind its indicator, inside a block of the given indentation. -/
def block (literal : Bool) (parent : Int) (c : Cursor) : Option (List Char × Cursor) := do
  let (header, n) ← BlockHeader.read? c.rest
  let c := (c.skip n).skipWhile isBlank
  let c := if c.rest.head? == some '#' then c.skipLine else c
  if !atLineEnd c.rest then none
  let c := c.skipBreak
  let given := header.indent.map fun d => (max parent 0).toNat + d
  let (widest, empty, c) ← blockBreaks given (c.rest.length + 1) 0 [] c
  let indent := given.getD (max widest (max (parent + 1).toNat 1))
  let (t, c) ← blockLines literal indent (c.rest.length + 1) { empty } c
  let tail := match header.chomp with
    | .strip => []
    | .clip => t.last
    | .keep => t.last ++ t.empty
  return (t.text ++ tail, c)

end EventTally.Yaml
