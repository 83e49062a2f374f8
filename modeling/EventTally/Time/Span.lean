import EventTally.Text.Blank

/-! Lengths of time, written as numbers with units: `1h 30m`, `2.5s`. Numbers and units may follow
each other with or without blanks, and the parts add up. `write` names the largest units first and
leaves out those that are zero. -/

namespace EventTally

structure Span where
  seconds : Nat
  nanos : Nat
  seconds_lt : seconds < 0x10000000000000000
  nanos_lt : nanos < 1000000000
  deriving DecidableEq

namespace Span

open Text (isBlank)

def of? (seconds nanos : Nat) : Option Span :=
  if h : seconds < 0x10000000000000000 ∧ nanos < 1000000000 then some ⟨seconds, nanos, h.1, h.2⟩ else none

inductive Unit where
  | nanosecond | microsecond | millisecond | second | minute | hour | day | week | month | year
  deriving DecidableEq

inductive Error where
  | empty
  | invalidCharacter (offset : Nat)
  | numberExpected (offset : Nat)
  | unknownUnit (unit : String) (value : Nat)
  | overflow
  deriving DecidableEq

def Error.message : Error → String
  | .empty => "value was empty"
  | .invalidCharacter offset => s!"invalid character at {offset}"
  | .numberExpected offset => s!"expected number at {offset}"
  | .unknownUnit unit value =>
    if unit.isEmpty then s!"time unit needed, for example {value}sec or {value}ms"
    else s!"unknown time unit \"{unit}\", supported units: ns, us/µs, ms, sec, min, hours, days, "
      ++ "weeks, months, years (and few variations)"
  | .overflow =>
    "number is too large or cannot be represented without a lack of precision "
      ++ "(values below 1ns are not supported)"

def Unit.ofString? : String → Option Unit
  | "nanos" | "nsec" | "ns" => some nanosecond
  | "usec" | "us" | "µs" => some microsecond
  | "millis" | "msec" | "ms" => some millisecond
  | "seconds" | "second" | "secs" | "sec" | "s" => some second
  | "minutes" | "minute" | "min" | "mins" | "m" => some minute
  | "hours" | "hour" | "hr" | "hrs" | "h" => some hour
  | "days" | "day" | "d" => some day
  | "weeks" | "week" | "wk" | "wks" | "w" => some week
  | "months" | "month" | "M" => some month
  | "years" | "year" | "yr" | "yrs" | "y" => some year
  | _ => none

/-- Seconds of a unit of one second or more; a month is 30.44 days and a year 365.25. -/
def Unit.seconds : Unit → Nat
  | nanosecond | microsecond | millisecond => 0
  | second => 1
  | minute => 60
  | hour => 3600
  | day => 86400
  | week => 604800
  | month => 2630016
  | year => 31557600

/-- Nanoseconds of a unit of one minute or less, for its fractions. -/
def Unit.nanos : Unit → Nat
  | nanosecond => 1
  | microsecond => 1000
  | millisecond => 1000000
  | second => 1000000000
  | minute => 60000000000
  | _ => 0

/-- A number that fits a word of 64 bits. -/
def word (n : Nat) : Except Error Nat := if n < 0x10000000000000000 then .ok n else .error .overflow

def zero : Span := ⟨0, 0, by decide, by decide⟩

/-- The age from which events are left out where nothing else is said. -/
def usual : Span := ⟨60, 0, by decide, by decide⟩

def add (s : Span) (seconds nanos : Nat) : Except Error Span := do
  let total ← word (s.nanos + nanos)
  let sum := s.seconds + seconds + total / 1000000000
  if h : sum < 0x10000000000000000 then
    .ok ⟨sum, total % 1000000000, h, Nat.mod_lt _ (by decide)⟩
  else .error .overflow

/-- A decimal fraction, `numerator / denominator`. -/
structure Fraction where
  numerator : Nat
  denominator : Nat

def addUnits (s : Span) (unit : Unit) (n : Nat) (fraction : Option Fraction) :
    Except Error Span := do
  let s ←
    if unit.seconds = 0 then s.add 0 (← word (n * unit.nanos))
    else s.add (← word (n * unit.seconds)) 0
  match fraction with
  | none => .ok s
  | some f =>
    let part (size : Nat) : Except Error Nat := do
      let total ← word (f.numerator * size)
      if total % f.denominator = 0 then .ok (total / f.denominator) else .error .overflow
    match unit with
    | .nanosecond => .error .overflow
    | .microsecond | .millisecond | .second | .minute => do s.add 0 (← part unit.nanos)
    | _ => do s.add (← part unit.seconds) 0

def isUnitChar (c : Char) : Bool := c.isAlpha || c == 'µ'

def bytes (cs : List Char) : Nat := cs.foldl (fun n c => n + c.utf8Size) 0

/-- The next number's first digit, if anything but blanks is left. -/
def firstDigit (offset : Nat) : List Char → Except Error (Option (Nat × List Char))
  | [] => .ok none
  | c :: rest =>
    if c.isDigit then .ok (some (c.toNat - 48, rest))
    else if isBlank c then firstDigit offset rest
    else .error (.numberExpected offset)

/-- The digits after a point, with the text from the unit on. `size` is the length of the whole
text in bytes, and `offset` where the last character stood. -/
def fraction (size : Nat) (offset : Nat) (f : Fraction) :
    List Char → Except Error (Fraction × List Char)
  | [] => if f.denominator = 1 then .error (.invalidCharacter offset) else .ok (f, [])
  | c :: rest => do
    if c.isDigit then
      let d ← word (f.denominator * 10)
      let n ← word (f.numerator * 10 + (c.toNat - 48))
      fraction size (size - bytes rest) ⟨n, d⟩ rest
    else if isBlank c then fraction size (size - bytes rest) f rest
    else if isUnitChar c && f.denominator ≠ 1 then .ok (f, c :: rest)
    else .error (.invalidCharacter offset)

/-- The rest of a number whose leading digits are `n`, with the text from the unit on. -/
def number (size : Nat) (n : Nat) : List Char → Except Error (Nat × Option Fraction × List Char)
  | [] => .ok (n, none, [])
  | c :: rest => do
    if c.isDigit then number size (← word (n * 10 + (c.toNat - 48))) rest
    else if isBlank c then number size n rest
    else if isUnitChar c then .ok (n, none, c :: rest)
    else
      let offset := size - bytes (c :: rest)
      if c == '.' then
        let (f, r) ← fraction size offset ⟨0, 1⟩ rest
        .ok (n, some f, r)
      else .error (.invalidCharacter offset)

/-- The parts from a number on, whose leading digit is `n`. -/
def parts (size : Nat) : Nat → Nat → List Char → Span → Except Error Span
  | 0, _, _, s => .ok s
  | fuel + 1, n, cs, s => do
    let (n, f, cs) ← number size n cs
    let name := String.ofList (cs.takeWhile isUnitChar)
    let rest := cs.dropWhile isUnitChar
    let stop : Option (Nat × List Char) ←
      match rest with
      | [] => .ok none
      | c :: after =>
        if c.isDigit then .ok (some (c.toNat - 48, after))
        else if isBlank c then .ok none
        else .error (.invalidCharacter (size - bytes rest))
    let some unit := Unit.ofString? name | .error (.unknownUnit name n)
    let s ← s.addUnits unit n f
    match stop with
    | some (d, after) => parts size fuel d after s
    | none =>
      let after := rest.drop 1
      match ← firstDigit (size - bytes after) after with
      | some (d, after) => parts size fuel d after s
      | none => .ok s

def parse (text : String) : Except Error Span := do
  if text == "0" then return zero
  let cs := text.toList
  match ← firstDigit 0 cs with
  | none => .error .empty
  | some (d, rest) => parts (bytes cs) (cs.length + 1) d rest zero

def isZero (s : Span) : Bool := s.seconds == 0 && s.nanos == 0

/-- Nanoseconds of the whole length. -/
def totalNanos (s : Span) : Nat := s.seconds * 1000000000 + s.nanos

/-- The parts of a length that are shown, each with its unit's name for that number. -/
def shownParts (s : Span) : List (Nat × String) :=
  let plural (n : Nat) (unit : String) := (n, if n > 1 then unit ++ "s" else unit)
  let inYear := s.seconds % 31557600
  let inMonth := inYear % 2630016
  let inDay := inMonth % 86400
  [plural (s.seconds / 31557600) "year", plural (inYear / 2630016) "month",
   plural (inMonth / 86400) "day", (inDay / 3600, "h"), (inDay % 3600 / 60, "m"),
   (inDay % 60, "s"), (s.nanos / 1000000, "ms"), (s.nanos / 1000 % 1000, "us"),
   (s.nanos % 1000, "ns")].filter (·.1 ≠ 0)

def write (s : Span) : String :=
  if s.isZero then "0s"
  else " ".intercalate (s.shownParts.map fun (n, unit) => toString n ++ unit)

end Span
end EventTally
