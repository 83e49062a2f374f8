import EventTally.Json.Basic
import EventTally.Text.Hex
import EventTally.Text.Utf8

/-! Reading JSON text. The text is a list of characters in which a byte that belongs to no character
is a `none`; such a byte may only stand inside a string, which is then `unreadable`. `parse?` is
`none` exactly for text outside the grammar. -/

namespace EventTally.Json

abbrev Text := List (Option Char)

def skipBlank : Text → Text
  | some c :: rest =>
    if c == ' ' || c == '\n' || c == '\t' || c == '\r' then skipBlank rest else some c :: rest
  | t => t

def digitRun : Text → List Char × Text
  | some c :: rest =>
    if c.isDigit then let (ds, r) := digitRun rest; (c :: ds, r) else ([], some c :: rest)
  | t => ([], t)

def digitsValue (ds : List Char) : Nat := ds.foldl (fun n d => 10 * n + (d.toNat - 48)) 0

/-- The least number that rounds to no finite float. -/
def floatBound : Nat := Nat.pow 2 1024 - Nat.pow 2 970

/-- Whether `m · 10^e` is beyond the floats. -/
def overflows (m : Nat) (e : Int) : Bool :=
  if m == 0 then false
  else
    let size := (Nat.toDigits 10 m).length + e
    if size > 310 then true
    else if size < 300 then false
    else if 0 ≤ e then floatBound ≤ m * Nat.pow 10 e.toNat
    else floatBound * Nat.pow 10 (-e).toNat ≤ m

def integer (negative : Bool) (n : Nat) (text : String) : Json :=
  if negative then
    if n == 0 || n > 0x8000000000000000 then real text else int (-n)
  else if n < 0x10000000000000000 then int n
  else real text

/-- An exponent part: its sign, its digits, and how it was written. -/
def exponent : Text → Option (Bool × List Char × List Char × Text)
  | some e :: rest =>
    let (sign, body) := match rest with
      | some '+' :: r => ([e, '+'], r)
      | some '-' :: r => ([e, '-'], r)
      | r => ([e], r)
    let (ds, r) := digitRun body
    if ds.isEmpty then none else some (sign.contains '-', ds, sign ++ ds, r)
  | _ => none

/-- A number without its sign. -/
def number (negative : Bool) (t : Text) : Option (Json × Text) := do
  let (whole, r) := digitRun t
  if whole.isEmpty || (whole.length > 1 && whole.head? == some '0') then none
  let sign := if negative then ['-'] else []
  let (frac, r) ← match r with
    | some '.' :: r' =>
      let (ds, r'') := digitRun r'
      if ds.isEmpty then none else some (ds, r'')
    | _ => some ([], r)
  let written := sign ++ whole ++ (if frac.isEmpty then [] else '.' :: frac)
  let (expo, written, r) ← match r with
    | some 'e' :: _ | some 'E' :: _ =>
      (exponent r).map fun (minus, ds, text, r') =>
        (some (if minus then -(digitsValue ds : Int) else digitsValue ds), written ++ text, r')
    | _ => some (none, written, r)
  let m := digitsValue (whole ++ frac)
  let e := expo.getD 0 - frac.length
  let text := String.ofList written
  let value :=
    if overflows m e then unreadable
    else if frac.isEmpty && expo.isNone then integer negative m text
    else real text
  some (value, r)

/-- A piece of a string: a character, half of a surrogate pair, or a stray byte. -/
inductive Piece where
  | char (c : Char)
  | half (n : Nat)
  | stray

/-- What stands between the quotes, and what follows the closing one. -/
def quoted : Text → Option (Text × Text)
  | [] => none
  | some '"' :: rest => some ([], rest)
  | some '\\' :: c :: rest => (quoted rest).map fun (s, r) => (some '\\' :: c :: s, r)
  | none :: rest => (quoted rest).map fun (s, r) => (none :: s, r)
  | some c :: rest =>
    if c.toNat < 0x20 then none else (quoted rest).map fun (s, r) => (some c :: s, r)

def hex4? (a b c d : Char) : Option Nat :=
  Hex.number? [a, b, c, d]

def unicodePiece (n : Nat) : Piece :=
  if 0xD800 ≤ n && n ≤ 0xDFFF then .half n else .char (Char.ofNat n)

def simpleEscape? : Char → Option Char
  | '"' => some '"'
  | '\\' => some '\\'
  | '/' => some '/'
  | 'b' => some '\x08'
  | 'f' => some '\x0c'
  | 'n' => some '\n'
  | 'r' => some '\r'
  | 't' => some '\t'
  | _ => none

def pieces : Text → Option (List Piece)
  | [] => some []
  | some '\\' :: some 'u' :: some a :: some b :: some c :: some d :: rest => do
    let n ← hex4? a b c d
    (pieces rest).map (unicodePiece n :: ·)
  | some '\\' :: some e :: rest => do
    let c ← simpleEscape? e
    (pieces rest).map (.char c :: ·)
  | some '\\' :: _ => none
  | some c :: rest => (pieces rest).map (.char c :: ·)
  | none :: rest => (pieces rest).map (.stray :: ·)

/-- The characters of the pieces, if every half has its partner. -/
def joined : List Piece → Option (List Char)
  | [] => some []
  | .char c :: rest => (joined rest).map (c :: ·)
  | .half h :: .half l :: rest =>
    if h < 0xDC00 && 0xDC00 ≤ l then
      (joined rest).map (Char.ofNat (0x10000 + (h - 0xD800) * 0x400 + (l - 0xDC00)) :: ·)
    else none
  | .half _ :: _ => none
  | .stray :: _ => none

/-- A string after its opening quote; the inner `none` is a string that stands for no text. -/
def string (t : Text) : Option (Option String × Text) := do
  let (body, rest) ← quoted t
  let ps ← pieces body
  some ((joined ps).map String.ofList, rest)

def literal (word : List Char) (j : Json) (t : Text) : Option (Json × Text) :=
  if t.take word.length == word.map some then some (j, t.drop word.length) else none

mutual

def value : Nat → Text → Option (Json × Text)
  | 0, _ => none
  | fuel + 1, t =>
    match skipBlank t with
    | some 'n' :: r => literal ['u', 'l', 'l'] null r
    | some 't' :: r => literal ['r', 'u', 'e'] (bool true) r
    | some 'f' :: r => literal ['a', 'l', 's', 'e'] (bool false) r
    | some '"' :: r => (string r).map fun (s, r') => (s.elim unreadable str, r')
    | some '[' :: r =>
      match skipBlank r with
      | some ']' :: r' => some (arr [], r')
      | r' => (items fuel r').map fun (js, r'') => (arr js, r'')
    | some '{' :: r =>
      match skipBlank r with
      | some '}' :: r' => some (obj [], r')
      | r' => (members fuel r').map fun (ms, r'') => (ms.elim unreadable obj, r'')
    | some '-' :: r => number true r
    | r => number false r

/-- The items of an array after its bracket or a comma. -/
def items : Nat → Text → Option (List Json × Text)
  | 0, _ => none
  | fuel + 1, t => do
    let (j, r) ← value fuel t
    match skipBlank r with
    | some ',' :: r' => (items fuel r').map fun (js, r'') => (j :: js, r'')
    | some ']' :: r' => some ([j], r')
    | _ => none

/-- The members of an object after its brace or a comma; the inner `none` says that a name stands
for no text. -/
def members : Nat → Text → Option (Option (List (String × Json)) × Text)
  | 0, _ => none
  | fuel + 1, t =>
    match skipBlank t with
    | some '"' :: r => do
      let (name, r) ← string r
      match skipBlank r with
      | some ':' :: r' =>
        let (j, r) ← value fuel r'
        match skipBlank r with
        | some ',' :: r' =>
          (members fuel r').map fun (ms, r'') => ((do some ((← name, j) :: (← ms))), r'')
        | some '}' :: r' => some (name.map fun n => [(n, j)], r')
        | _ => none
      | _ => none
    | _ => none

end

/-- The value of a whole text: nothing but white space may follow it. -/
def parse? (t : Text) : Option Json := do
  let (j, r) ← value (t.length + 1) t
  if (skipBlank r).isEmpty then some j else none

def ofString? (s : String) : Option Json := parse? (s.toList.map some)

def ofBytes? (bytes : List UInt8) : Option Json := parse? (Utf8.scan bytes)

end EventTally.Json
