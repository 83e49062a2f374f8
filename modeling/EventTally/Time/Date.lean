/-! Days of the proleptic Gregorian calendar, within the years that a timestamp may have.
`dayNumber` counts days from 1970-01-01, and one step of `next?` raises it by one. -/

namespace EventTally

namespace Calendar

def isLeap (year : Int) : Bool := year % 4 == 0 && (year % 100 != 0 || year % 400 == 0)

def daysIn (year : Int) (month : Nat) : Nat :=
  match month with
  | 2 => if isLeap year then 29 else 28
  | 4 | 6 | 9 | 11 => 30
  | _ => 31

/-- Days of a common year before the first of a month. -/
def daysBeforeMonth (month : Nat) : Nat :=
  ([0, 31, 59, 90, 120, 151, 181, 212, 243, 273, 304, 334])[month - 1]?.getD 0

/-- Days from year 1 to the first of January, counted down before year 1. -/
def daysBeforeYear (year : Int) : Int :=
  365 * (year - 1) + (year - 1) / 4 - (year - 1) / 100 + (year - 1) / 400

def minYear : Int := -262143
def maxYear : Int := 262142

def valid (year : Int) (month day : Nat) : Bool :=
  minYear ≤ year && year ≤ maxYear && 1 ≤ month && month ≤ 12 && 1 ≤ day && day ≤ daysIn year month

end Calendar

open Calendar

structure Date where
  year : Int
  month : Nat
  day : Nat
  isValid : valid year month day = true
  deriving DecidableEq

namespace Date

def of? (year : Int) (month day : Nat) : Option Date :=
  if h : valid year month day = true then some ⟨year, month, day, h⟩ else none

def next? (d : Date) : Option Date :=
  if d.day < daysIn d.year d.month then of? d.year d.month (d.day + 1)
  else if d.month < 12 then of? d.year (d.month + 1) 1
  else of? (d.year + 1) 1 1

def previous? (d : Date) : Option Date :=
  if 1 < d.day then of? d.year d.month (d.day - 1)
  else if 1 < d.month then of? d.year (d.month - 1) (daysIn d.year (d.month - 1))
  else of? (d.year - 1) 12 31

/-- Days since 1970-01-01. -/
def dayNumber (d : Date) : Int :=
  daysBeforeYear d.year + daysBeforeMonth d.month
    + (if isLeap d.year && 2 < d.month then 1 else 0) + (d.day - 1) - 719162

/-- The day of a year so many days after the first of the first month listed. -/
def within? (year : Int) : List Nat → Nat → Option Date
  | [], _ => none
  | month :: rest, days =>
    if days < daysIn year month then of? year month (days + 1)
    else within? year rest (days - daysIn year month)

/-- The day of a number. Years repeat after 400; each fourth, hundredth and four hundredth year of
these is the longer one of its kind. -/
def ofDayNumber? (n : Int) : Option Date :=
  let days := ((n + 719162) % 146097).toNat
  let centuries := min (days / 36524) 3
  let days := days - 36524 * centuries
  let fours := days / 1461
  let days := days - 1461 * fours
  let years := min (days / 365) 3
  let year := 400 * ((n + 719162) / 146097) + 100 * centuries + 4 * fours + years + 1
  within? year ((List.range 12).map (· + 1)) (days - 365 * years)

end Date
end EventTally
