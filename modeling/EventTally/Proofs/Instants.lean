import EventTally.Time.Rfc3339
import Mathlib

/-! Timestamps that were written. Each part is read up to where the next one starts, and the parts make the
same instant: years of any sign and length, leap seconds, and fractions of any of the three widths. -/

namespace EventTally.Timestamp

open Text (isBlank trimStart)

/-! ## Digits -/

theorem isDigit_of_mem_padded {width n : ℕ} {c : Char} (h : c ∈ padded width n) : c.isDigit := by
  rcases List.mem_append.1 h with hc | hc
  · rw [List.eq_of_mem_replicate hc]
    decide
  · exact Nat.isDigit_of_mem_toDigits (by decide) (by decide) hc

theorem padded_ne_nil (width n : ℕ) : padded width n ≠ [] := by
  intro h
  exact Nat.toDigits_ne_nil (List.append_eq_nil_iff.1 h).2

theorem length_padded {width n : ℕ} (hw : 0 < width) (hn : n < 10 ^ width) :
    (padded width n).length = width := by
  have hlength := Nat.toDigits_length 10 n width hw hn
  rw [padded, List.length_append, List.length_replicate]
  omega

theorem value_padded (width n : ℕ) :
    (padded width n).foldl (fun n d => 10 * n + (d.toNat - 48)) 0 = n := by
  have hzeros : ∀ k, (List.replicate k '0').foldl (fun n d => 10 * n + (d.toNat - 48)) 0 = 0 := by
    intro k
    induction k with
    | zero => rfl
    | succ k ih => rw [List.replicate_succ, List.foldl_cons]; exact ih
  rw [padded, List.foldl_append, hzeros]
  exact Nat.ofDigitChars_ten_toDigits

/-- Digits are read up to the limit, or to the first character that is none. -/
theorem readDigits?_append {limit : ℕ} {ds rest : List Char} (hne : ds ≠ []) (hd : ∀ c ∈ ds, c.isDigit)
    (hl : ds.length ≤ limit) (hr : ds.length = limit ∨ ∀ c ∈ rest.head?, c.isDigit = false) :
    readDigits? limit (ds ++ rest) =
      some (ds.foldl (fun n d => 10 * n + (d.toNat - 48)) 0, rest) := by
  have htake : ((ds ++ rest).take limit).takeWhile Char.isDigit = ds := by
    rw [List.take_append, List.take_of_length_le hl, List.takeWhile_append_of_pos hd]
    rcases hr with hr | hr
    · rw [hr, Nat.sub_self, List.take_zero, List.takeWhile_nil, List.append_nil]
    · cases rest with
      | nil => simp
      | cons c rest =>
        have hc : c.isDigit = false := hr c rfl
        cases limit - ds.length <;> simp [hc]
  unfold readDigits?
  rw [htake]
  simp [hne]

theorem readDigits?_padded {limit width n : ℕ} {rest : List Char} (hl : (padded width n).length ≤ limit)
    (hr : (padded width n).length = limit ∨ ∀ c ∈ rest.head?, c.isDigit = false) :
    readDigits? limit (padded width n ++ rest) = some (n, rest) := by
  rw [readDigits?_append (padded_ne_nil width n) (fun c => isDigit_of_mem_padded) hl hr, value_padded]

/-! ## Parts -/

theorem trimStart_cons {c : Char} (h : isBlank c = false) (cs : List Char) : trimStart (c :: cs) = c :: cs := by
  rw [trimStart, List.dropWhile_cons_of_neg (by simp [h])]

theorem not_isBlank_of_isDigit {c : Char} (h : c.isDigit) : isBlank c = false := by
  have hbounds : 48 ≤ c.toNat ∧ c.toNat ≤ 57 := by
    simp only [Char.isDigit, Bool.and_eq_true, decide_eq_true_eq] at h
    exact h
  have hall : ∀ n < 58, 48 ≤ n → isBlank (Char.ofNat n) = false := by decide
  rw [← Char.ofNat_toNat c]
  exact hall c.toNat (by omega) hbounds.1

theorem trimStart_padded (width n : ℕ) (rest : List Char) :
    trimStart (padded width n ++ rest) = padded width n ++ rest := by
  obtain ⟨c, cs, hc⟩ := List.exists_cons_of_ne_nil (padded_ne_nil width n)
  have hdigit : c.isDigit := isDigit_of_mem_padded (hc ▸ List.mem_cons_self)
  rw [hc, List.cons_append, trimStart_cons (not_isBlank_of_isDigit hdigit)]

theorem readNumber?_padded {n : ℕ} (hn : n < 100) (rest : List Char) :
    readNumber? 2 (padded 2 n ++ rest) = some (n, rest) := by
  have hlength : (padded 2 n).length = 2 := length_padded (by decide) (by omega)
  rw [readNumber?, trimStart_padded, readDigits?_padded hlength.le (.inl hlength)]

theorem expect?_cons {c : Char} (h : isBlank c = false) (rest : List Char) :
    expect? c (c :: rest) = some rest := by
  rw [expect?, trimStart_cons h]
  simp

/-- A year of four digits. -/
theorem readYear?_padded {n : ℕ} (hn : n < 10 ^ 4) (rest : List Char) :
    readYear? (padded 4 n ++ rest) = some ((n : ℤ), rest) := by
  have hlength : (padded 4 n).length = 4 := length_padded (by decide) hn
  have hread : readDigits? 4 (padded 4 n ++ rest) = some (n, rest) :=
    readDigits?_padded hlength.le (.inl hlength)
  obtain ⟨c, cs, hc⟩ := List.exists_cons_of_ne_nil (padded_ne_nil 4 n)
  have hdigit : c.isDigit := isDigit_of_mem_padded (hc ▸ List.mem_cons_self)
  rw [readYear?, trimStart_padded]
  rw [hc, List.cons_append] at hread ⊢
  -- a digit is neither of the signs
  split
  · rename_i heq
    cases heq
    exact absurd hdigit (by decide)
  · rename_i heq
    cases heq
    exact absurd hdigit (by decide)
  · rw [hread, Option.map_some]

theorem readYear?_yearChars (year : ℤ) (rest : List Char) :
    readYear? (yearChars year ++ '-' :: rest) = some (year, '-' :: rest) := by
  have hmark : ∀ c ∈ ('-' :: rest).head?, c.isDigit = false := by simp
  have hall : ∀ n : ℕ, readDigits? (padded 4 n ++ '-' :: rest).length (padded 4 n ++ '-' :: rest) =
      some (n, '-' :: rest) := fun n => readDigits?_padded (by simp) (.inr hmark)
  unfold yearChars
  split_ifs with hshort hneg
  · simp only [Bool.and_eq_true, decide_eq_true_eq] at hshort
    rw [readYear?_padded (by omega), Int.toNat_of_nonneg hshort.1]
  · rw [List.cons_append, readYear?, trimStart_cons (by decide)]
    simp only [hall, Option.map_some]
    rw [Int.ofNat_natAbs_of_nonpos (by omega), neg_neg]
  · rw [List.cons_append, readYear?, trimStart_cons (by decide)]
    simp only [hall, Option.map_some]
    rw [Int.natAbs_of_nonneg (by omega)]

/-- A fraction counts in units of its last digit. -/
theorem readFraction?_padded {width n : ℕ} (hw : 0 < width) (hle : width ≤ 9) (hn : n < 10 ^ width)
    {rest : List Char} (hr : ∀ c ∈ rest.head?, c.isDigit = false) :
    readFraction? ('.' :: padded width n ++ rest) = some (n * 10 ^ (9 - width), rest) := by
  have hlength := length_padded hw hn
  have hstop : rest.takeWhile Char.isDigit = [] ∧ rest.dropWhile Char.isDigit = rest := by
    cases rest with
    | nil => exact ⟨rfl, rfl⟩
    | cons c rest =>
      have hc : ¬ c.isDigit := Bool.not_eq_true _ ▸ hr c rfl
      exact ⟨List.takeWhile_cons_of_neg hc, List.dropWhile_cons_of_neg hc⟩
  have htake : (padded width n ++ rest).takeWhile Char.isDigit = padded width n := by
    rw [List.takeWhile_append_of_pos fun c => isDigit_of_mem_padded, hstop.1, List.append_nil]
  rw [List.cons_append, readFraction?, readDigits?_padded (hlength.trans_le hle) (.inr hr), htake, hlength,
    Option.bind_eq_bind, Option.bind_some]
  dsimp only
  rw [hstop.2, Nat.min_eq_right hle, Nat.pow_eq]

theorem readFraction?_fractionChars {nano : ℕ} (hn : nano < 1000000000) (rest : List Char) :
    readFraction? (fractionChars nano ++ 'Z' :: rest) = some (nano, 'Z' :: rest) := by
  have hmark : ∀ c ∈ ('Z' :: rest).head?, c.isDigit = false := by simp
  unfold fractionChars
  split_ifs with hzero hmilli hmicro
  · rw [beq_iff_eq] at hzero
    rw [hzero]
    rfl
  · rw [beq_iff_eq] at hmilli
    have hnano : nano / 1000000 * 10 ^ (9 - 3) = nano :=
      Nat.div_mul_cancel (Nat.dvd_of_mod_eq_zero hmilli)
    rw [readFraction?_padded (by decide) (by decide) (by omega) hmark, hnano]
  · rw [beq_iff_eq] at hmicro
    have hnano : nano / 1000 * 10 ^ (9 - 6) = nano :=
      Nat.div_mul_cancel (Nat.dvd_of_mod_eq_zero hmicro)
    rw [readFraction?_padded (by decide) (by decide) (by omega) hmark, hnano]
  · rw [readFraction?_padded (by decide) (by decide) hn hmark, Nat.sub_self, Nat.pow_zero, Nat.mul_one]

/-! ## Whole timestamps -/

theorem readDate?_write (d : Date) (rest : List Char) :
    readDate? (yearChars d.year ++ '-' :: padded 2 d.month ++ '-' :: padded 2 d.day ++ 'T' :: rest) =
      some (d, 'T' :: rest) := by
  have hvalid := d.isValid
  simp only [Calendar.valid, Bool.and_eq_true, decide_eq_true_eq] at hvalid
  have hdays : Calendar.daysIn d.year d.month ≤ 31 := by
    unfold Calendar.daysIn
    split
    · split_ifs <;> omega
    all_goals omega
  have hof : Date.of? d.year d.month d.day = some d := dif_pos d.isValid
  have hchars : yearChars d.year ++ '-' :: padded 2 d.month ++ '-' :: padded 2 d.day ++ 'T' :: rest =
      yearChars d.year ++ '-' :: (padded 2 d.month ++ '-' :: (padded 2 d.day ++ 'T' :: rest)) := by simp
  rw [hchars, readDate?, readYear?_yearChars]
  simp only [Option.bind_eq_bind, Option.bind_some]
  rw [expect?_cons (by decide), Option.bind_some, readNumber?_padded (by omega), Option.bind_some,
    expect?_cons (by decide), Option.bind_some, readNumber?_padded (by omega), Option.bind_some, hof,
    Option.bind_some]

theorem of?_clock (t : Timestamp) : of? t.date (t.second / 3600) (t.second / 60 % 60)
    (t.second % 60 + if t.isLeapSecond then 1 else 0) (t.nano % 1000000000) = some t := by
  obtain ⟨date, second, nano, hsecond, hnano, hlast⟩ := t
  unfold of? isLeapSecond
  dsimp only
  generalize hleap : (if decide (1000000000 ≤ nano) = true then 1 else 0) = leap
  simp only [decide_eq_true_eq] at hleap
  have hclock : second / 3600 < 24 ∧ second / 60 % 60 < 60 ∧ second % 60 + leap ≤ 60 ∧
      nano % 1000000000 < 1000000000 := by
    split at hleap <;> omega
  have hs : second / 3600 * 3600 + second / 60 % 60 * 60 + min (second % 60 + leap) 59 = second := by
    split at hleap
    · have := hlast ‹_›
      omega
    · omega
  have hn : (if second % 60 + leap == 60 then 1000000000 + nano % 1000000000 else nano % 1000000000) =
      nano := by
    split at hleap
    · have := hlast ‹_›
      rw [if_pos (by rw [beq_iff_eq]; omega)]
      omega
    · rw [if_neg (by rw [beq_iff_eq]; omega)]
      omega
  rw [dif_pos hclock]
  simp only [hs, hn]

theorem readClock?_write (t : Timestamp) (rest : List Char) :
    readClock? t.date (padded 2 (t.second / 3600) ++ ':' :: padded 2 (t.second / 60 % 60) ++
      ':' :: padded 2 (t.second % 60 + if t.isLeapSecond then 1 else 0) ++
      fractionChars (t.nano % 1000000000) ++ 'Z' :: rest) = some (t, 'Z' :: rest) := by
  have hsecond := t.second_lt
  have hleap : (if t.isLeapSecond then 1 else 0) ≤ 1 := by split <;> omega
  rw [readClock?, List.append_assoc, List.append_assoc, List.append_assoc]
  simp only [List.cons_append]
  rw [readNumber?_padded (by omega)]
  simp only [Option.bind_eq_bind, Option.bind_some]
  rw [expect?_cons (by decide), Option.bind_some, readNumber?_padded (by omega), Option.bind_some,
    expect?_cons (by decide), Option.bind_some, readNumber?_padded (by omega), Option.bind_some,
    readFraction?_fractionChars (Nat.mod_lt _ (by decide)), Option.bind_some, of?_clock, Option.bind_some]

theorem aheadBy?_zero (t : Timestamp) : t.aheadBy? 0 = some t := by
  have hsecond := t.second_lt
  have hlow : ¬ (t.second : ℤ) < 0 := by omega
  have hhigh : ¬ 86400 ≤ (t.second : ℤ) := by omega
  have hmod : ((t.second : ℤ) % 86400).toNat = t.second := by omega
  unfold aheadBy?
  simp [hlow, hhigh, hmod]

/-- A timestamp is read back from its text. -/
theorem read?_write (t : Timestamp) : read? t.write = some t := by
  have hchars : t.writeChars = (yearChars t.date.year ++ '-' :: padded 2 t.date.month ++
      '-' :: padded 2 t.date.day ++ 'T' :: (padded 2 (t.second / 3600) ++ ':' ::
      padded 2 (t.second / 60 % 60) ++ ':' :: padded 2 (t.second % 60 + if t.isLeapSecond then 1 else 0) ++
      fractionChars (t.nano % 1000000000) ++ ['Z'])) := by
    simp [writeChars]
  rw [read?, write, String.toList_ofList, hchars, readChars?, readDate?_write]
  simp only [Option.bind_eq_bind, Option.bind_some]
  rw [readClock?_write]
  exact aheadBy?_zero t

end EventTally.Timestamp
