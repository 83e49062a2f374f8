import EventTally.Time.Timestamp
import EventTally.Text.Blank

/-! Timestamps as text. `read?` takes RFC 3339 with some leave: blanks around the parts, short
numbers, signed years of any length, and offsets without a colon. `write` has one form: UTC, four
digits of the year (more with a sign), and a fraction of 0, 3, 6 or 9 digits. -/

namespace EventTally.Timestamp

open Text (isBlank trimStart)

/-- The number of up to `limit` leading digits; there must be one. -/
def readDigits? (limit : Nat) (cs : List Char) : Option (Nat × List Char) :=
  let ds := (cs.take limit).takeWhile Char.isDigit
  if ds.isEmpty then none
  else some (ds.foldl (fun n d => 10 * n + (d.toNat - 48)) 0, cs.drop ds.length)

def readNumber? (limit : Nat) (cs : List Char) : Option (Nat × List Char) :=
  readDigits? limit (trimStart cs)

/-- A year: up to four digits, or a sign and any number of them. -/
def readYear? (cs : List Char) : Option (Int × List Char) :=
  match trimStart cs with
  | '-' :: rest => (readDigits? rest.length rest).map fun (n, r) => (-(n : Int), r)
  | '+' :: rest => (readDigits? rest.length rest).map fun (n, r) => ((n : Int), r)
  | rest => (readDigits? 4 rest).map fun (n, r) => ((n : Int), r)

def expect? (c : Char) (cs : List Char) : Option (List Char) :=
  match trimStart cs with
  | d :: rest => if d == c then some rest else none
  | [] => none

/-- Nanoseconds of a fraction; digits past the ninth are dropped. -/
def readFraction? : List Char → Option (Nat × List Char)
  | '.' :: rest => do
    let (n, r) ← readDigits? 9 rest
    let width := min 9 (rest.takeWhile Char.isDigit).length
    some (n * Nat.pow 10 (9 - width), r.dropWhile Char.isDigit)
  | cs => some (0, cs)

def twoDigits? : List Char → Option (Nat × List Char)
  | a :: b :: rest =>
    if a.isDigit && b.isDigit then some ((a.toNat - 48) * 10 + (b.toNat - 48), rest) else none
  | _ => none

/-- Minutes ahead of UTC. -/
def readOffset? (cs : List Char) : Option (Int × List Char) :=
  match cs with
  | 'Z' :: rest | 'z' :: rest => some (0, rest)
  | u :: t :: c :: rest =>
    if u.toUpper == 'U' && t.toUpper == 'T' && c.toUpper == 'C' then some (0, rest)
    else do
      let sign : Int ←
        if u == '+' then some 1 else if u == '-' || u == '−' then some (-1) else none
      let (hours, r) ← twoDigits? (t :: c :: rest)
      let (minutes, r) ← twoDigits? (r.dropWhile fun c => c == ':' || isBlank c)
      if minutes < 60 && hours < 24 then some (sign * (hours * 60 + minutes), r) else none
  | _ => none

def readDate? (cs : List Char) : Option (Date × List Char) := do
  let (year, r) ← readYear? cs
  let (month, r) ← readNumber? 2 (← expect? '-' r)
  let (day, r) ← readNumber? 2 (← expect? '-' r)
  some (← Date.of? year month day, r)

def readClock? (date : Date) (cs : List Char) : Option (Timestamp × List Char) := do
  let (hour, r) ← readNumber? 2 cs
  let (minute, r) ← readNumber? 2 (← expect? ':' r)
  let (second, r) ← readNumber? 2 (← expect? ':' r)
  let (fraction, r) ← readFraction? r
  some (← of? date hour minute second fraction, r)

def readChars? (cs : List Char) : Option Timestamp := do
  let (date, r) ← readDate? cs
  match r with
  | sep :: r =>
    if sep != 'T' && sep != 't' && sep != ' ' then none
    let (shown, r) ← readClock? date r
    let (offset, r) ← readOffset? (trimStart r)
    if !(trimStart r).isEmpty then none
    shown.aheadBy? offset
  | [] => none

def read? (s : String) : Option Timestamp := readChars? s.toList

/-- The decimal digits of `n`, with zeros in front up to `width`. -/
def padded (width n : Nat) : List Char :=
  let ds := Nat.toDigits 10 n
  List.replicate (width - ds.length) '0' ++ ds

def yearChars (year : Int) : List Char :=
  if 0 ≤ year && year ≤ 9999 then padded 4 year.toNat
  else (if year < 0 then '-' else '+') :: padded 4 year.natAbs

def fractionChars (nano : Nat) : List Char :=
  if nano == 0 then []
  else if nano % 1000000 == 0 then '.' :: padded 3 (nano / 1000000)
  else if nano % 1000 == 0 then '.' :: padded 6 (nano / 1000)
  else '.' :: padded 9 nano

def writeChars (t : Timestamp) : List Char :=
  let leap := if t.isLeapSecond then 1 else 0
  yearChars t.date.year ++ '-' :: padded 2 t.date.month ++ '-' :: padded 2 t.date.day ++
  'T' :: padded 2 (t.second / 3600) ++ ':' :: padded 2 (t.second / 60 % 60) ++
  ':' :: padded 2 (t.second % 60 + leap) ++ fractionChars (t.nano % 1000000000) ++ ['Z']

def write (t : Timestamp) : String := String.ofList t.writeChars

end EventTally.Timestamp
