import EventTally.Proofs.Calendar
import EventTally.Rule.Age

/-! The age filter is exact. The age of an event is the number of nanoseconds that the clock ticks from the
time at which the event was last seen, and it is computed in words of 64 bits without overflow. So an event
that is discarded stays discarded as time goes on, and for each lower threshold. -/

namespace EventTally

/-- The times at which an event was seen, of which the first counts. -/
def Event.observations (e : Event) : List Timestamp :=
  [e.lastTimestamp, e.series.bind (·.lastObservedTime), e.eventTime].reduceOption

theorem Event.lastObserved_eq (e : Event) : e.lastObserved = e.observations.head? := by
  unfold lastObserved observations
  cases e.lastTimestamp <;> cases e.series.bind (·.lastObservedTime) <;> cases e.eventTime <;> rfl

/-! ## Words -/

namespace Timestamp

/-- A number in a word of 64 bits with a sign. -/
def word? (n : ℤ) : Option ℤ :=
  if -0x8000000000000000 ≤ n ∧ n ≤ 0x7FFFFFFFFFFFFFFF then some n else none

/-- A length of time with a sign, as seconds and nanoseconds. Its milliseconds fit a word. -/
def length? (seconds nanos : ℤ) : Option (ℤ × ℤ) := do
  let _ ← word? (seconds * 1000 + nanos / 1000000)
  return (seconds, nanos)

/-- The time from one instant to another, computed in words: the days between the dates, what lies between the
times of day, and the sum of both. -/
def age? (now seen : Timestamp) : Option (ℤ × ℤ) := do
  let days ← word? (now.date.dayNumber - seen.date.dayNumber)
  let (whole, _) ← length? (← word? (days * 86400)) 0
  let seconds ← word? (now.second - seen.second)
  let nanos ← word? (now.nano - seen.nano)
  let (part, nanos) ← length? (← word? (seconds + nanos / 1000000000)) (nanos % 1000000000)
  length? (← word? (whole + part)) nanos

theorem word?_eq {n : ℤ} (h : -0x8000000000000000 ≤ n ∧ n ≤ 0x7FFFFFFFFFFFFFFF) : word? n = some n :=
  if_pos h

theorem length?_eq {seconds nanos : ℤ} (hs : -0x20000000000000 ≤ seconds ∧ seconds ≤ 0x1FFFFFFFFFFFFF)
    (hn : 0 ≤ nanos ∧ nanos < 1000000000) : length? seconds nanos = some (seconds, nanos) := by
  rw [length?, word?_eq (by omega)]
  rfl

end Timestamp

/-- Whether a length of time is above the span: it has more seconds, or as many and more nanoseconds. -/
def Span.isBelow (s : Span) (length : ℤ × ℤ) : Bool :=
  0 ≤ length.1 && (s.seconds < length.1 || s.seconds = length.1 && s.nanos < length.2)

theorem Date.dayNumber_bounds (d : Date) : -100000000 ≤ d.dayNumber ∧ d.dayNumber ≤ 100000000 := by
  have hd := d.bounds
  have hdays : Calendar.daysIn d.year d.month ≤ 31 := by
    unfold Calendar.daysIn
    split <;> try split
    all_goals omega
  have hmonth : Calendar.daysBeforeMonth d.month ≤ 334 := by
    obtain ⟨-, -, hlow, hhigh, -⟩ := hd
    generalize d.month = month at hlow hhigh
    interval_cases month <;> decide
  unfold dayNumber Calendar.daysBeforeYear
  unfold Calendar.minYear Calendar.maxYear at hd
  split <;> omega

variable {now seen : Timestamp}

/-- No step of the computation overflows, and it gives the difference in nanoseconds. -/
theorem Timestamp.age?_eq (hnow : now.isLeapSecond = false) (hseen : seen.isLeapSecond = false) :
    ∃ seconds nanos, now.age? seen = some (seconds, nanos) ∧ 0 ≤ nanos ∧ nanos < 1000000000 ∧
      seconds * 1000000000 + nanos = now.since seen := by
  have hdays := now.date.dayNumber_bounds
  have hdays' := seen.date.dayNumber_bounds
  have hsecond := now.second_lt
  have hsecond' := seen.second_lt
  have hnano := nano_lt_of_regular hnow
  have hnano' := nano_lt_of_regular hseen
  refine ⟨(now.date.dayNumber - seen.date.dayNumber) * 86400 +
    ((now.second - seen.second) + (now.nano - seen.nano : ℤ) / 1000000000),
    (now.nano - seen.nano : ℤ) % 1000000000, ?_, by omega, by omega, ?_⟩
  · simp only [age?, Option.bind_eq_bind]
    rw [word?_eq (by omega), Option.bind_some, word?_eq (by omega), Option.bind_some,
      length?_eq (by omega) (by omega), Option.bind_some, word?_eq (by omega), Option.bind_some,
      word?_eq (by omega), Option.bind_some, word?_eq (by omega), Option.bind_some,
      length?_eq (by omega) (by omega), Option.bind_some, word?_eq (by omega), Option.bind_some,
      length?_eq (by omega) (by omega)]
  · simp only [since, hnow, hseen, nanos]
    simp only [Bool.and_false, Bool.false_eq_true, if_false]
    omega

theorem Span.isBelow_iff (s : Span) {seconds nanos : ℤ} (hn : 0 ≤ nanos ∧ nanos < 1000000000) :
    s.isBelow (seconds, nanos) ↔ (s.totalNanos : ℤ) < seconds * 1000000000 + nanos := by
  have := s.nanos_lt
  simp only [isBelow, totalNanos, Bool.and_eq_true, Bool.or_eq_true, decide_eq_true_eq]
  omega

/-! ## Verdicts -/

namespace Timestamp

theorem since_eq (hnow : now.isLeapSecond = false) (hseen : seen.isLeapSecond = false) :
    now.since seen = now.nanos - seen.nanos := by
  simp [since, hnow, hseen]

/-- Of any two instants one is some nanoseconds after the other. -/
theorem after?_total (hnow : now.isLeapSecond = false) (hseen : seen.isLeapSecond = false) :
    (∃ age, seen.after? age = some now) ∨ ∃ ahead, now.after? ahead = some seen := by
  rcases le_total seen.nanos now.nanos with h | h
  · exact .inl ⟨(now.nanos - seen.nanos).toNat, (after?_iff hseen hnow).2 (by omega)⟩
  · exact .inr ⟨(seen.nanos - now.nanos).toNat, (after?_iff hnow hseen).2 (by omega)⟩

theorem lt_since_iff (hnow : now.isLeapSecond = false) (hseen : seen.isLeapSecond = false) {n : ℕ} :
    n < now.since seen ↔ ∃ age, seen.after? age = some now ∧ n < age := by
  rw [since_eq hnow hseen]
  constructor
  · intro h
    exact ⟨(now.nanos - seen.nanos).toNat, (after?_iff hseen hnow).2 (by omega), by omega⟩
  · rintro ⟨age, hage, hlt⟩
    have := (after?_iff hseen hnow).1 hage
    omega

theorem since_le_of_after? (hnow : now.isLeapSecond = false) (hseen : seen.isLeapSecond = false) {wait : ℕ}
    {later : Timestamp} (h : now.after? wait = some later) : now.since seen ≤ later.since seen := by
  have hlater := regular_of_after? hnow h
  have := (after?_iff hnow hlater).1 h
  rw [since_eq hnow hseen, since_eq hlater hseen]
  omega

/-- A clock that is ahead shows an instant so much later, and one that is behind so much earlier. -/
theorem after?_of_aheadBy? {shown t : Timestamp} (hshown : shown.isLeapSecond = false) {minutes : ℕ}
    (hm : minutes < 1440) :
    (shown.aheadBy? minutes = some t → t.after? (minutes * 60000000000) = some shown) ∧
      (shown.aheadBy? (-minutes) = some t → shown.after? (minutes * 60000000000) = some t) := by
  constructor
  · intro h
    have hnanos := nanos_aheadBy? (by omega) h
    refine (after?_iff (regular_of_aheadBy? hshown h) hshown).2 ?_
    push_cast
    omega
  · intro h
    have hnanos := nanos_aheadBy? (by omega) h
    refine (after?_iff hshown (regular_of_aheadBy? hshown h)).2 ?_
    push_cast
    omega

end Timestamp

namespace AgeFilter

theorem isEnabled_iff (f : AgeFilter) : f.isEnabled ↔ 0 < f.threshold.totalNanos := by
  simp only [isEnabled, Span.isZero, Span.totalNanos, Bool.not_eq_true', Bool.and_eq_false_iff,
    beq_eq_false_iff_ne]
  omega

theorem discards_iff (f : AgeFilter) (e : Event) (now : Timestamp) : f.discards e now ↔
    0 < f.threshold.totalNanos ∧ ∀ seen ∈ e.observations.head?, f.threshold.totalNanos < now.since seen := by
  rw [discards, Bool.and_eq_true, isEnabled_iff, e.lastObserved_eq]
  cases e.observations.head? <;> simp

/-- An event is discarded by a threshold above zero if it was never seen, or if more nanoseconds have passed
since it was seen: as many as the clock ticks from then to now, in whatever years that is and whatever offset
the time was written with. They are computed without overflow. So an event that is discarded is also discarded
at each later instant, and by each lower threshold above zero. -/
theorem discards_exact (f : AgeFilter) {e : Event} {now : Timestamp} (hnow : now.isLeapSecond = false)
    (hseen : ∀ seen ∈ e.observations, seen.isLeapSecond = false) :
    (f.discards e now ↔ 0 < f.threshold.totalNanos ∧
      ∀ seen ∈ e.observations.head?, ∃ age, seen.after? age = some now ∧ f.threshold.totalNanos < age) ∧
    (∀ seen ∈ e.observations.head?,
      ((∃ age, seen.after? age = some now) ∨ ∃ ahead, now.after? ahead = some seen) ∧
      ∃ length, now.age? seen = some length ∧ f.discards e now = (f.isEnabled && f.threshold.isBelow length)) ∧
    (∀ (shown t : Timestamp) (minutes : ℕ), shown.isLeapSecond = false → minutes < 1440 →
      (shown.aheadBy? minutes = some t → t.after? (minutes * 60000000000) = some shown) ∧
        (shown.aheadBy? (-minutes) = some t → shown.after? (minutes * 60000000000) = some t)) ∧
    (∀ wait later, now.after? wait = some later → f.discards e now → f.discards e later) ∧
    ∀ f' : AgeFilter, 0 < f'.threshold.totalNanos → f'.threshold.totalNanos ≤ f.threshold.totalNanos →
      f.discards e now → f'.discards e now := by
  have hfirst : ∀ seen ∈ e.observations.head?, seen.isLeapSecond = false :=
    fun seen h => hseen seen (List.mem_of_mem_head? h)
  refine ⟨?_, fun seen h => ⟨Timestamp.after?_total hnow (hfirst seen h), ?_⟩,
    fun shown t minutes hshown hm => Timestamp.after?_of_aheadBy? hshown hm, fun wait later hwait hd => ?_,
    fun f' hpos hle hd => ?_⟩
  · rw [discards_iff]
    exact and_congr_right fun _ => forall₂_congr fun seen h => Timestamp.lt_since_iff hnow (hfirst seen h)
  · obtain ⟨seconds, nanos, hage, hlow, hhigh, hsince⟩ := Timestamp.age?_eq hnow (hfirst seen h)
    refine ⟨_, hage, ?_⟩
    rw [Bool.eq_iff_iff, Bool.and_eq_true, discards_iff, isEnabled_iff, Span.isBelow_iff _ ⟨hlow, hhigh⟩, hsince,
      Option.mem_def.1 h]
    simp
  · obtain ⟨hpos, hd⟩ := (discards_iff f e now).1 hd
    refine (discards_iff f e later).2 ⟨hpos, fun seen h => ?_⟩
    exact (hd seen h).trans_le (Timestamp.since_le_of_after? hnow (hfirst seen h) hwait)
  · obtain ⟨-, hd⟩ := (discards_iff f e now).1 hd
    refine (discards_iff f' e now).2 ⟨hpos, fun seen h => ?_⟩
    exact (Nat.cast_le.2 hle).trans_lt (hd seen h)

/-- Seen on a leap day, by a clock that shows the day after. -/
def longAgo : Event where
  series := some { lastObservedTime := Timestamp.read? "-200000-03-01T00:30:01.5+01:00" }

/-- Half an hour and a nanosecond later. -/
def backThen : Timestamp where
  date := ⟨-200000, 3, 1, by decide⟩
  second := 1
  nano := 500000001
  second_lt := by decide
  nano_lt := by decide
  leap_last := by decide

/-- Half an hour. -/
def halfHour : AgeFilter := ⟨{ Span.usual with seconds := 1800, seconds_lt := by decide }⟩

theorem longAgo_discarded : (backThen.isLeapSecond = false ∧
      ∀ seen ∈ longAgo.observations, seen.isLeapSecond = false) ∧
    halfHour.discards longAgo backThen ∧
    (∀ seen ∈ longAgo.observations.head?, ∃ age, seen.after? age = some backThen ∧ 1800000000000 < age) ∧
    ∀ wait later, backThen.after? wait = some later → halfHour.discards longAgo later := by
  have hregular : backThen.isLeapSecond = false ∧
      ∀ seen ∈ longAgo.observations, seen.isLeapSecond = false := by decide +kernel
  have hdiscards : halfHour.discards longAgo backThen := by decide +kernel
  obtain ⟨hiff, -, -, hlater, -⟩ := discards_exact halfHour hregular.1 hregular.2
  exact ⟨hregular, hdiscards, (hiff.1 hdiscards).2, fun wait later hwait => hlater wait later hwait hdiscards⟩

end AgeFilter

end EventTally
