import EventTally.Time.Date

/-! Instants in UTC. A leap second is the last second of a minute with a fraction of one second or
more. `since` measures from one instant to a later one; where no leap second is involved it is the
difference of `nanos`. -/

namespace EventTally

structure Timestamp where
  date : Date
  /-- Seconds since midnight. -/
  second : Nat
  /-- Nanoseconds into the second, from 10⁹ up within a leap second. -/
  nano : Nat
  second_lt : second < 86400
  nano_lt : nano < 2000000000
  leap_last : 1000000000 ≤ nano → second % 60 = 59
  deriving DecidableEq

namespace Timestamp

def isLeapSecond (t : Timestamp) : Bool := 1000000000 ≤ t.nano

theorem second_lt_of_clock {hour minute second : Nat} (hh : hour < 24) (hm : minute < 60) :
    hour * 3600 + minute * 60 + min second 59 < 86400 := by
  omega

theorem nano_lt_of_clock {second fraction : Nat} (hf : fraction < 1000000000) :
    (if second == 60 then 1000000000 + fraction else fraction) < 2000000000 := by
  split <;> omega

theorem leap_last_of_clock {hour minute second fraction : Nat}
    (hf : fraction < 1000000000)
    (hn : 1000000000 ≤ if second == 60 then 1000000000 + fraction else fraction) :
    (hour * 3600 + minute * 60 + min second 59) % 60 = 59 := by
  split at hn
  · rename_i h
    rw [beq_iff_eq] at h
    omega
  · omega

/-- The time of day of a clock reading, whose second may be 60. -/
def of? (date : Date) (hour minute second fraction : Nat) : Option Timestamp :=
  let s := min second 59
  let n := if second == 60 then 1000000000 + fraction else fraction
  if h : hour < 24 ∧ minute < 60 ∧ second ≤ 60 ∧ fraction < 1000000000 then
    some {
      date := date
      second := hour * 3600 + minute * 60 + s
      nano := n
      second_lt := second_lt_of_clock h.1 h.2.1
      nano_lt := nano_lt_of_clock h.2.2.2
      leap_last := leap_last_of_clock h.2.2.2 }
  else none

/-- The instant at which a clock that is `minutes` ahead of UTC shows what `t` shows. -/
def aheadBy? (t : Timestamp) (minutes : Int) : Option Timestamp := do
  let total : Int := t.second - 60 * minutes
  let date ←
    if total < 0 then t.date.previous?
    else if 86400 ≤ total then t.date.next?
    else some t.date
  some {
    date := date
    second := (total % 86400).toNat
    nano := t.nano
    second_lt := by omega
    nano_lt := t.nano_lt
    leap_last := by have := t.leap_last; omega }

/-- Nanoseconds since 1970-01-01T00:00:00Z, leap seconds not counted. -/
def nanos (t : Timestamp) : Int :=
  (t.date.dayNumber * 86400 + t.second) * 1000000000 + t.nano

/-- The instant of a number of nanoseconds. -/
def ofNanos? (n : Int) : Option Timestamp := do
  let second := n / 1000000000
  let date ← Date.ofDayNumber? (second / 86400)
  some {
    date
    second := (second % 86400).toNat
    nano := (n % 1000000000).toNat
    second_lt := by omega
    nano_lt := by omega
    leap_last := by omega }

/-- Nanoseconds from `earlier` to `t`. A leap second that has passed between the two clock readings
is counted, and one that has not is not. -/
def since (t earlier : Timestamp) : Int :=
  let leap : Int :=
    if earlier.second < t.second && earlier.isLeapSecond then 1
    else if t.second < earlier.second && t.isLeapSecond then -1
    else 0
  t.nanos - earlier.nanos + leap * 1000000000

end Timestamp
end EventTally
