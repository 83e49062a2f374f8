/-! Punycode: the characters of a label that are not ASCII, written behind those that are as
differences between their codes and places. A difference is a number in base 36 whose digits come
lowest first; how long it gets depends on a bias that follows the differences seen so far. -/

namespace EventTally.Punycode

def digit (d : Nat) : Char := if d < 26 then Char.ofNat (97 + d) else Char.ofNat (22 + d)

def value? (c : Char) : Option Nat :=
  if c.isDigit then some (c.toNat - 22)
  else if c.isLower then some (c.toNat - 97)
  else if c.isUpper then some (c.toNat - 65)
  else none

/-- A digit below the threshold of its place ends the number. -/
def threshold (place bias : Nat) : Nat :=
  if place ≤ bias then 1 else if bias + 26 ≤ place then 26 else place - bias

theorem threshold_pos (place bias : Nat) : 0 < threshold place bias := by
  unfold threshold; split <;> (try split) <;> omega

def scale (delta k : Nat) : Nat :=
  if 455 < delta then scale (delta / 35) (k + 36) else k + 36 * delta / (delta + 38)
  termination_by delta
  decreasing_by omega

/-- The bias after a difference, when there are `count` characters. -/
def adapt (delta count : Nat) (isFirst : Bool) : Nat :=
  let delta := if isFirst then delta / 700 else delta / 2
  scale (delta + delta / count) 0

def firstBias : Nat := 72

/-! ## Encoding -/

def number (bias place n : Nat) : List Char :=
  let t := threshold place bias
  if n < t then [digit n]
  else digit (t + (n - t) % (36 - t)) :: number bias (place + 36) ((n - t) / (36 - t))
  termination_by n
  decreasing_by
    have := threshold_pos place bias
    have : (n - threshold place bias) / (36 - threshold place bias) ≤ n - threshold place bias :=
      Nat.div_le_self ..
    omega

structure Encoding where
  written : List Char := []
  delta : Nat := 0
  bias : Nat := firstBias
  /-- How many characters have been written so far. -/
  count : Nat

/-- Passes a character while those of the code are written. -/
def Encoding.pass (code basic : Nat) (e : Encoding) (c : Char) : Encoding :=
  if c.toNat < code then { e with delta := e.delta + 1 }
  else if c.toNat = code then
    { written := e.written ++ number e.bias 36 e.delta, delta := 0,
      bias := adapt e.delta (e.count + 1) (e.count = basic), count := e.count + 1 }
  else e

/-- Writes the characters of each code, in ascending order of the codes; `next` is the lowest code
that may come. -/
def encodeCodes (cs : List Char) (basic : Nat) : Nat → Encoding → List Nat → Encoding
  | _, e, [] => e
  | next, e, code :: rest =>
    let e := { e with delta := e.delta + (code - next) * (e.count + 1) }
    let e := cs.foldl (·.pass code basic) e
    encodeCodes cs basic (code + 1) { e with delta := e.delta + 1 } rest

def isBasic (c : Char) : Bool := c.toNat < 0x80

def distinct : List Nat → List Nat
  | a :: b :: rest => if a = b then distinct (b :: rest) else a :: distinct (b :: rest)
  | codes => codes

def encode (cs : List Char) : List Char :=
  let basic := cs.filter isBasic
  let codes := distinct (((cs.filter (!isBasic ·)).map Char.toNat).mergeSort (· ≤ ·))
  let e := encodeCodes cs basic.length 0x80 { count := basic.length } codes
  basic ++ (if basic.isEmpty then [] else ['-']) ++ e.written

/-! ## Decoding -/

/-- The number at the start of the digits, and the digits behind it. Numbers and the weights of
their digits fit 32 bits. -/
def readNumber? (bias : Nat) : (place weight n : Nat) → List Char → Option (Nat × List Char)
  | _, _, _, [] => none
  | place, weight, n, c :: rest => do
    let d ← value? c
    let n := n + d * weight
    if 0x100000000 ≤ n then none
    else
      let t := threshold place bias
      if d < t then return (n, rest)
      else
        let weight := weight * (36 - t)
        if 0x100000000 ≤ weight then none else readNumber? bias (place + 36) weight n rest

theorem readNumber?_length {bias place weight n : Nat} {cs rest : List Char} {m : Nat}
    (h : readNumber? bias place weight n cs = some (m, rest)) : rest.length < cs.length := by
  induction cs generalizing place weight n with
  | nil => simp [readNumber?] at h
  | cons c more ih =>
    unfold readNumber? at h
    cases hv : value? c with
    | none => simp [hv] at h
    | some d => grind

/-- Decodes the differences behind the text found so far. -/
def decodeFrom? (code place bias : Nat) (isFirst : Bool) (text : List Char) (digits : List Char) :
    Option (List Char) :=
  if digits.isEmpty then some text
  else
    match h : readNumber? bias 36 1 0 digits with
    | none => none
    | some (delta, rest) =>
      have := readNumber?_length h
      let count := text.length + 1
      let i := place + delta
      let code := code + i / count
      let place := i % count
      if code.isValidChar then
        decodeFrom? code (place + 1) (adapt delta count isFirst) false
          (text.take place ++ Char.ofNat code :: text.drop place) rest
      else none
  termination_by digits.length

/-- The text that the digits behind the last hyphen and the characters before it stand for. -/
def decode? (cs : List Char) : Option (List Char) :=
  let digits := (cs.reverse.takeWhile (· ≠ '-')).reverse
  let basic := (cs.take (cs.length - digits.length)).dropLast
  if basic.isEmpty then decodeFrom? 0x80 0 firstBias true [] cs
  else if basic.all isBasic then decodeFrom? 0x80 0 firstBias true basic digits
  else none

end EventTally.Punycode
