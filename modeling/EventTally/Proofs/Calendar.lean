import EventTally.Time.Timestamp
import Mathlib

/-! Days and instants in a row. Each month starts right behind the one before, so the number of a day counts
the steps of the calendar that lead to it, and the nanoseconds of an instant those of the clock. -/

namespace EventTally

open Calendar

/-! ## Months -/

namespace Calendar

theorem daysBeforeYear_succ (year : ℤ) :
    daysBeforeYear (year + 1) = daysBeforeYear year + if isLeap year then 366 else 365 := by
  unfold daysBeforeYear isLeap
  split <;> simp_all <;> omega

/-- Days from year 1 to the first of a month. -/
def daysBefore (year : ℤ) (month : ℕ) : ℤ :=
  daysBeforeYear year + daysBeforeMonth month + if isLeap year && 2 < month then 1 else 0

theorem daysBefore_succ (year : ℤ) {month : ℕ} (hlow : 1 ≤ month) (hhigh : month < 12) :
    daysBefore year (month + 1) = daysBefore year month + daysIn year month := by
  unfold daysBefore daysIn
  interval_cases month <;> cases isLeap year <;> simp [daysBeforeMonth] <;> omega

theorem daysBefore_newYear (year : ℤ) : daysBefore (year + 1) 1 = daysBefore year 12 + 31 := by
  unfold daysBefore
  rw [daysBeforeYear_succ]
  cases isLeap year <;> simp [daysBeforeMonth] <;> omega

theorem daysIn_pos (year : ℤ) (month : ℕ) : 28 ≤ daysIn year month := by
  unfold daysIn
  split <;> try split
  all_goals omega

/-- Days before a month, which is told by the number of months before it. -/
def daysBeforeNth (months : ℤ) : ℤ := daysBefore (months / 12) ((months % 12).toNat + 1)

theorem daysBeforeNth_succ (months : ℤ) : daysBeforeNth (months + 1) =
    daysBeforeNth months + daysIn (months / 12) ((months % 12).toNat + 1) := by
  unfold daysBeforeNth
  by_cases hlast : months % 12 = 11
  · have hyear : (months + 1) / 12 = months / 12 + 1 := by omega
    have hmonth : (months + 1) % 12 = 0 := by omega
    rw [hyear, hmonth, hlast]
    exact daysBefore_newYear _
  · have hyear : (months + 1) / 12 = months / 12 := by omega
    have hmonth : ((months + 1) % 12).toNat = (months % 12).toNat + 1 := by omega
    rw [hyear, hmonth]
    exact daysBefore_succ _ (by omega) (by omega)

theorem daysBeforeNth_strictMono : StrictMono daysBeforeNth := by
  refine strictMono_int_of_lt_succ fun months => ?_
  rw [daysBeforeNth_succ]
  have := daysIn_pos (months / 12) ((months % 12).toNat + 1)
  omega

end Calendar

/-! ## Days -/

namespace Date

theorem bounds (d : Date) : minYear ≤ d.year ∧ d.year ≤ maxYear ∧ 1 ≤ d.month ∧ d.month ≤ 12 ∧
    1 ≤ d.day ∧ d.day ≤ daysIn d.year d.month := by
  have h := d.isValid
  simp only [valid, Bool.and_eq_true, decide_eq_true_eq] at h
  obtain ⟨⟨⟨⟨⟨h₁, h₂⟩, h₃⟩, h₄⟩, h₅⟩, h₆⟩ := h
  exact ⟨h₁, h₂, h₃, h₄, h₅, h₆⟩

/-- The number of months before the month of a day. -/
def months (d : Date) : ℤ := 12 * d.year + (d.month - 1)

theorem months_div (d : Date) : d.months / 12 = d.year := by
  have := d.bounds
  unfold months
  omega

theorem months_mod (d : Date) : (d.months % 12).toNat + 1 = d.month := by
  have := d.bounds
  unfold months
  omega

theorem dayNumber_eq (d : Date) : d.dayNumber = daysBeforeNth d.months + d.day - 719163 := by
  rw [daysBeforeNth, d.months_div, d.months_mod, daysBefore, dayNumber]
  omega

theorem dayNumber_lt_of_months {d d' : Date} (h : d.months < d'.months) : d.dayNumber < d'.dayNumber := by
  have hnext := daysBeforeNth_succ d.months
  rw [d.months_div, d.months_mod] at hnext
  have hmono := daysBeforeNth_strictMono.monotone (Int.add_one_le_of_lt h)
  have hd := d.bounds
  have hd' := d'.bounds
  rw [dayNumber_eq, dayNumber_eq]
  omega

theorem ext {d d' : Date} (hm : d.months = d'.months) (hd : d.day = d'.day) : d = d' := by
  have hyear : d.year = d'.year := by rw [← d.months_div, hm, d'.months_div]
  have hmonth : d.month = d'.month := by rw [← d.months_mod, hm, d'.months_mod]
  cases d
  cases d'
  cases hyear
  cases hmonth
  cases hd
  rfl

/-- Each number belongs to one day. -/
theorem dayNumber_injective : Function.Injective dayNumber := by
  intro d d' h
  rcases lt_trichotomy d.months d'.months with hlt | heq | hlt
  · exact absurd h (dayNumber_lt_of_months hlt).ne
  · refine ext heq ?_
    rw [dayNumber_eq, dayNumber_eq, heq] at h
    omega
  · exact absurd h (dayNumber_lt_of_months hlt).ne'

theorem of?_eq_some {year : ℤ} {month day : ℕ} {d : Date} (h : of? year month day = some d) :
    d.year = year ∧ d.month = month ∧ d.day = day := by
  unfold of? at h
  split at h
  · cases h
    exact ⟨rfl, rfl, rfl⟩
  · cases h

/-- The next day has the next number. -/
theorem dayNumber_next {d d' : Date} (h : d.next? = some d') : d'.dayNumber = d.dayNumber + 1 := by
  have hd := d.bounds
  unfold next? at h
  split at h
  · obtain ⟨hy, hm, hday⟩ := of?_eq_some h
    have hmonths : d'.months = d.months := by rw [months, months, hy, hm]
    rw [dayNumber_eq, dayNumber_eq, hmonths, hday]
    omega
  · have hlast : d.day = daysIn d.year d.month := by omega
    -- as a number of months, the next month and the next year are the same case
    have hmonths : d'.months = d.months + 1 ∧ d'.day = 1 := by
      split at h
      · obtain ⟨hy, hm, hday⟩ := of?_eq_some h
        exact ⟨by rw [months, months, hy, hm]; omega, hday⟩
      · obtain ⟨hy, hm, hday⟩ := of?_eq_some h
        exact ⟨by rw [months, months, hy, hm]; omega, hday⟩
    have hnext := daysBeforeNth_succ d.months
    rw [d.months_div, d.months_mod] at hnext
    rw [dayNumber_eq, dayNumber_eq, hmonths.1, hmonths.2, hnext, hlast]
    omega

/-- The day before has the number before. -/
theorem dayNumber_previous {d d' : Date} (h : d.previous? = some d') : d'.dayNumber = d.dayNumber - 1 := by
  have hd := d.bounds
  unfold previous? at h
  split at h
  · obtain ⟨hy, hm, hday⟩ := of?_eq_some h
    have hmonths : d'.months = d.months := by rw [months, months, hy, hm]
    rw [dayNumber_eq, dayNumber_eq, hmonths, hday]
    omega
  · have hfirst : d.day = 1 := by omega
    have hmonths : d.months = d'.months + 1 ∧ d'.day = daysIn d'.year d'.month := by
      split at h
      · obtain ⟨hy, hm, hday⟩ := of?_eq_some h
        exact ⟨by rw [months, months, hy, hm]; omega, by rw [hy, hm, hday]⟩
      · obtain ⟨hy, hm, hday⟩ := of?_eq_some h
        exact ⟨by rw [months, months, hy, hm]; omega, by rw [hm, hday]; rfl⟩
    have hnext := daysBeforeNth_succ d'.months
    rw [d'.months_div, d'.months_mod] at hnext
    rw [dayNumber_eq, dayNumber_eq, hmonths.1, hnext, hmonths.2, hfirst]
    omega

theorem of?_isSome {year : ℤ} {month day : ℕ} (h : minYear ≤ year ∧ year ≤ maxYear ∧ 1 ≤ month ∧ month ≤ 12 ∧
    1 ≤ day ∧ day ≤ daysIn year month) : (of? year month day).isSome := by
  have hvalid : valid year month day = true := by
    simp only [valid, Bool.and_eq_true, decide_eq_true_eq]
    tauto
  rw [of?, dif_pos hvalid]
  rfl

/-- Only behind the last day of all there is no next one. -/
theorem next?_isSome {d d' : Date} (h : d.dayNumber < d'.dayNumber) : d.next?.isSome := by
  have hd := d.bounds
  have hd' := d'.bounds
  unfold next?
  split
  · exact of?_isSome (by omega)
  · split
    · exact of?_isSome ⟨hd.1, hd.2.1, by omega, by omega, le_rfl, by have := daysIn_pos d.year (d.month + 1); omega⟩
    · have hlast : d.day = daysIn d.year d.month := by omega
      have hmonths : d.months < d'.months := by
        by_contra hle
        rcases (not_lt.1 hle).lt_or_eq with hlt | heq
        · exact absurd (dayNumber_lt_of_months hlt) (by omega)
        · have hyear : d'.year = d.year := by rw [← d'.months_div, heq, d.months_div]
          have hmonth : d'.month = d.month := by rw [← d'.months_mod, heq, d.months_mod]
          rw [dayNumber_eq, dayNumber_eq, heq] at h
          rw [hyear, hmonth] at hd'
          omega
      have hyear : d.year < d'.year := by
        unfold months at hmonths
        omega
      have := daysIn_pos (d.year + 1) 1
      exact of?_isSome (by omega)

end Date

/-! ## Nanoseconds -/

namespace Timestamp

/-- The next nanosecond of the clock. Leap seconds are passed over. -/
def tick? (t : Timestamp) : Option Timestamp :=
  if h : t.nano + 1 < 1000000000 then
    some { t with nano := t.nano + 1, nano_lt := by omega, leap_last := by omega }
  else if h : t.second + 1 < 86400 then
    some { t with second := t.second + 1, nano := 0, second_lt := h, nano_lt := by decide, leap_last := by omega }
  else t.date.next?.map fun date =>
    { date, second := 0, nano := 0, second_lt := by decide, nano_lt := by decide, leap_last := by omega }

/-- The instant that is so many nanoseconds later. -/
def after? (t : Timestamp) : ℕ → Option Timestamp
  | 0 => some t
  | n + 1 => t.tick?.bind (after? · n)

variable {t t' : Timestamp}

theorem nano_lt_of_regular (h : t.isLeapSecond = false) : t.nano < 1000000000 := by
  simpa [isLeapSecond] using h

/-- Instants with the same number of nanoseconds are the same. -/
theorem eq_of_nanos (ht : t.isLeapSecond = false) (ht' : t'.isLeapSecond = false) (h : t.nanos = t'.nanos) :
    t = t' := by
  have hnano := nano_lt_of_regular ht
  have hnano' := nano_lt_of_regular ht'
  have hsecond := t.second_lt
  have hsecond' := t'.second_lt
  unfold nanos at h
  have hdate : t.date = t'.date := Date.dayNumber_injective (by omega)
  have hclock : t.second = t'.second ∧ t.nano = t'.nano := by
    rw [hdate] at h
    omega
  cases t
  cases t'
  cases hdate
  cases hclock.1
  cases hclock.2
  rfl

/-- A tick is one nanosecond, also over the end of a day, a month or a year. -/
theorem nanos_tick (ht : t.isLeapSecond = false) (h : t.tick? = some t') :
    t'.nanos = t.nanos + 1 ∧ t'.isLeapSecond = false := by
  have hnano := nano_lt_of_regular ht
  have hsecond := t.second_lt
  unfold tick? at h
  split at h
  · cases h
    refine ⟨by simp only [nanos]; omega, ?_⟩
    simp only [isLeapSecond, decide_eq_false_iff_not]
    omega
  · split at h
    · cases h
      exact ⟨by simp only [nanos]; omega, rfl⟩
    · obtain ⟨date, hdate, rfl⟩ := Option.map_eq_some_iff.1 h
      have hday := Date.dayNumber_next hdate
      exact ⟨by simp only [nanos]; omega, rfl⟩

theorem tick?_isSome (ht' : t'.isLeapSecond = false) (h : t.nanos < t'.nanos) : t.tick?.isSome := by
  have hnano := nano_lt_of_regular ht'
  have hsecond := t'.second_lt
  unfold tick?
  split
  · rfl
  · split
    · rfl
    · unfold nanos at h
      have hlater : t.date.dayNumber < t'.date.dayNumber := by omega
      rw [Option.isSome_map]
      exact Date.next?_isSome hlater

/-- Counting nanoseconds counts ticks. -/
theorem after?_iff (ht : t.isLeapSecond = false) (ht' : t'.isLeapSecond = false) {n : ℕ} :
    t.after? n = some t' ↔ t'.nanos = t.nanos + n := by
  induction n generalizing t with
  | zero =>
    rw [after?, Option.some_inj, Nat.cast_zero, add_zero]
    exact ⟨fun h => h ▸ rfl, fun h => eq_of_nanos ht ht' h.symm⟩
  | succ n ih =>
    rw [after?, Option.bind_eq_some_iff]
    push_cast
    constructor
    · rintro ⟨next, htick, hrest⟩
      obtain ⟨hnext, hregular⟩ := nanos_tick ht htick
      rw [(ih hregular).1 hrest, hnext]
      omega
    · intro h
      obtain ⟨next, htick⟩ := Option.isSome_iff_exists.1 (tick?_isSome (t := t) ht' (by omega))
      obtain ⟨hnext, hregular⟩ := nanos_tick ht htick
      exact ⟨next, htick, (ih hregular).2 (by omega)⟩

theorem regular_of_after? (ht : t.isLeapSecond = false) {n : ℕ} (h : t.after? n = some t') :
    t'.isLeapSecond = false := by
  induction n generalizing t with
  | zero =>
    cases h
    exact ht
  | succ n ih =>
    obtain ⟨next, htick, hrest⟩ := Option.bind_eq_some_iff.1 h
    exact ih (nanos_tick ht htick).2 hrest

theorem regular_of_aheadBy? {shown : Timestamp} {minutes : ℤ} (hshown : shown.isLeapSecond = false)
    (h : shown.aheadBy? minutes = some t) : t.isLeapSecond = false := by
  simp only [aheadBy?, Option.bind_eq_bind] at h
  split at h
  · obtain ⟨date, -, h⟩ := Option.bind_eq_some_iff.1 h
    cases h
    exact hshown
  · split at h
    · obtain ⟨date, -, h⟩ := Option.bind_eq_some_iff.1 h
      cases h
      exact hshown
    · cases h
      exact hshown

/-- What a clock that is ahead shows is later by as much as it is ahead. -/
theorem nanos_aheadBy? {shown : Timestamp} {minutes : ℤ} (hm : -1440 < minutes ∧ minutes < 1440)
    (h : shown.aheadBy? minutes = some t) : t.nanos = shown.nanos - minutes * 60000000000 := by
  have hsecond := shown.second_lt
  simp only [aheadBy?, Option.bind_eq_bind] at h
  split at h
  · obtain ⟨date, hdate, h⟩ := Option.bind_eq_some_iff.1 h
    cases h
    have hday := Date.dayNumber_previous hdate
    simp only [nanos]
    omega
  · split at h
    · obtain ⟨date, hdate, h⟩ := Option.bind_eq_some_iff.1 h
      cases h
      have hday := Date.dayNumber_next hdate
      simp only [nanos]
      omega
    · cases h
      simp only [nanos]
      omega

end Timestamp
end EventTally
