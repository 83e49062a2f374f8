import EventTally.Base64
import EventTally.Proofs.Answering

/-! Base64 has one form for each list of bytes. Three bytes are four symbols, the bytes that are left at the end
are filled up with padding, and nothing else is decoded. -/

namespace EventTally.Base64

/-! ## Symbols -/

/-- The symbol of six bits. -/
def symbol (v : ℕ) : UInt8 :=
  UInt8.ofNat (if v < 26 then v + 65 else if v < 52 then v + 71 else if v < 62 then v - 4
    else if v = 62 then 43 else 47)

/-- The symbols of a number, the highest six bits first. -/
def symbols (n : ℕ) : ℕ → Bytes
  | 0 => []
  | count + 1 => symbol (n / 64 ^ count % 64) :: symbols n count

/-- The number that bytes make, read in base 256. -/
def octets (bs : Bytes) : ℕ := bs.foldl (fun n b => n * 256 + b.toNat) 0

/-- The one form of a list of bytes. -/
def encode : Bytes → Bytes
  | a :: b :: c :: rest => symbols (octets [a, b, c]) 4 ++ encode rest
  | [a, b] => symbols (octets [a, b] * 4) 3 ++ [pad]
  | [a] => symbols (octets [a] * 16) 2 ++ [pad, pad]
  | [] => []

theorem sextet?_symbol : ∀ v < 64, sextet? (symbol v) = some v := by decide +kernel

theorem eq_symbol_of_sextet? {b : UInt8} {v : ℕ} (h : sextet? b = some v) : v < 64 ∧ b = symbol v := by
  have hall : ∀ n < 256, ∀ v ∈ sextet? (UInt8.ofNat n), v < 64 ∧ UInt8.ofNat n = symbol v := by decide +kernel
  have hb := hall b.toNat b.toNat_lt v
  rw [UInt8.ofNat_toNat] at hb
  exact hb h

theorem symbol_ne_pad {v : ℕ} (h : v < 64) : symbol v ≠ pad := by
  intro he
  have hv := sextet?_symbol v h
  rw [he] at hv
  cases hv

theorem length_symbols (n count : ℕ) : (symbols n count).length = count := by
  induction count with
  | zero => rfl
  | succ count ih => rw [symbols, List.length_cons, ih]

theorem symbols_ne_pad {n count : ℕ} : ∀ b ∈ symbols n count, b ≠ pad := by
  induction count with
  | zero => nofun
  | succ count ih =>
    rw [symbols, List.forall_mem_cons]
    exact ⟨symbol_ne_pad (Nat.mod_lt _ (by decide)), ih⟩

theorem symbols_add_mul (n k count : ℕ) : symbols (n + k * 64 ^ count) count = symbols n count := by
  induction count generalizing k with
  | zero => rfl
  | succ count ih =>
    have hsplit : n + k * 64 ^ (count + 1) = n + k * 64 * 64 ^ count := by ring
    rw [symbols, symbols, hsplit, ih, Nat.add_mul_div_right _ _ (by positivity), Nat.add_mul_mod_self_right]

/-- The symbols of a number are read as the number. -/
theorem number_symbols (offset acc n count : ℕ) (h : n < 64 ^ count) :
    number offset acc (symbols n count) = .ok (acc * 64 ^ count + n) := by
  induction count generalizing offset acc n with
  | zero =>
    rw [symbols, number, pow_zero, mul_one]
    have : n = 0 := by simpa using h
    rw [this, add_zero]
  | succ count ih =>
    have hhigh : n / 64 ^ count < 64 := Nat.div_lt_of_lt_mul (by rwa [← pow_succ])
    have hlow := symbols_add_mul (n % 64 ^ count) (n / 64 ^ count) count
    rw [mul_comm, Nat.mod_add_div] at hlow
    rw [symbols, number, Nat.mod_eq_of_lt hhigh, sextet?_symbol _ hhigh, hlow]
    dsimp only
    rw [ih _ _ _ (Nat.mod_lt _ (by positivity)), Except.ok.injEq]
    have hdiv := Nat.div_add_mod n (64 ^ count)
    rw [pow_succ]
    linarith

/-- What is read as a number is the symbols of one. -/
theorem eq_symbols_of_number {offset acc n : ℕ} {bs : Bytes} (h : number offset acc bs = .ok n) :
    ∃ m < 64 ^ bs.length, n = acc * 64 ^ bs.length + m ∧ bs = symbols m bs.length := by
  induction bs generalizing offset acc with
  | nil =>
    cases h
    exact ⟨0, by simp, by simp, rfl⟩
  | cons b bs ih =>
    unfold number at h
    cases hv : sextet? b with
    | none =>
      rw [hv] at h
      cases h
    | some v =>
      rw [hv] at h
      obtain ⟨hlt, rfl⟩ := eq_symbol_of_sextet? hv
      obtain ⟨m, hm, hn, hbs⟩ := ih h
      refine ⟨m + v * 64 ^ bs.length, ?_, ?_, ?_⟩
      · rw [List.length_cons, pow_succ]
        nlinarith
      · rw [hn, List.length_cons, pow_succ]
        ring
      · rw [List.length_cons, symbols, symbols_add_mul, ← hbs, Nat.add_mul_div_right _ _ (by positivity),
          Nat.div_eq_of_lt hm, zero_add, Nat.mod_eq_of_lt hlt]

theorem number_eq_ok {offset n count : ℕ} {bs : Bytes} (h : bs.length = count) :
    number offset 0 bs = .ok n ↔ n < 64 ^ count ∧ bs = symbols n count := by
  subst h
  constructor
  · intro hn
    obtain ⟨m, hm, rfl, hbs⟩ := eq_symbols_of_number hn
    rw [zero_mul, zero_add]
    exact ⟨hm, hbs⟩
  · rintro ⟨hn, hbs⟩
    rw [hbs, number_symbols _ _ _ _ hn, zero_mul, zero_add]

/-! ## Bytes -/

theorem length_bytes (n count : ℕ) : (bytes n count).length = count := by
  induction count with
  | zero => rfl
  | succ count ih => rw [bytes, List.length_cons, ih]

theorem bytes_add_mul (n k count : ℕ) : bytes (n + k * 256 ^ count) count = bytes n count := by
  induction count generalizing k with
  | zero => rfl
  | succ count ih =>
    have hsplit : n + k * 256 ^ (count + 1) = n + k * 256 * 256 ^ count := by ring
    have hhigh : (n + k * 256 * 256 ^ count) / 256 ^ count = n / 256 ^ count + k * 256 :=
      Nat.add_mul_div_right _ _ (by positivity)
    have hbyte : UInt8.ofNat (n / 256 ^ count + k * 256) = UInt8.ofNat (n / 256 ^ count) := by
      rw [← UInt8.toNat_inj, UInt8.toNat_ofNat', UInt8.toNat_ofNat']
      exact Nat.add_mul_mod_self_right _ _ _
    rw [bytes, bytes, hsplit, ih, Nat.pow_eq, hhigh, hbyte]

theorem octets_cons (b : UInt8) (bs : Bytes) : octets (b :: bs) = octets bs + b.toNat * 256 ^ bs.length := by
  have hfold : ∀ (bs : Bytes) (n : ℕ), bs.foldl (fun n b => n * 256 + b.toNat) n =
      octets bs + n * 256 ^ bs.length := by
    intro bs
    induction bs with
    | nil => simp [octets]
    | cons b bs ih =>
      intro n
      rw [octets, List.foldl_cons, List.foldl_cons, ih, ih, List.length_cons]
      ring
  rw [octets, List.foldl_cons, hfold]
  ring

theorem octets_lt (bs : Bytes) : octets bs < 256 ^ bs.length := by
  induction bs with
  | nil => decide
  | cons b bs ih =>
    have hb := b.toNat_lt
    rw [octets_cons, List.length_cons, pow_succ]
    nlinarith

theorem bytes_octets (bs : Bytes) : bytes (octets bs) bs.length = bs := by
  induction bs with
  | nil => rfl
  | cons b bs ih =>
    have hhigh : (octets bs + b.toNat * 256 ^ bs.length) / 256 ^ bs.length = b.toNat := by
      rw [Nat.add_mul_div_right _ _ (by positivity), Nat.div_eq_of_lt (octets_lt bs), zero_add]
    rw [octets_cons, List.length_cons, bytes, bytes_add_mul, ih, Nat.pow_eq, hhigh, UInt8.ofNat_toNat]

theorem octets_bytes {n count : ℕ} (h : n < 256 ^ count) : octets (bytes n count) = n := by
  induction count generalizing n with
  | zero =>
    rw [pow_zero, Nat.lt_one_iff] at h
    rw [h]
    rfl
  | succ count ih =>
    have hhigh : n / 256 ^ count < 256 := Nat.div_lt_of_lt_mul (by rwa [← pow_succ])
    have hlow := bytes_add_mul (n % 256 ^ count) (n / 256 ^ count) count
    rw [mul_comm, Nat.mod_add_div] at hlow
    rw [bytes, octets_cons, length_bytes, Nat.pow_eq, UInt8.toNat_ofNat', Nat.mod_eq_of_lt hhigh, hlow,
      ih (Nat.mod_lt _ (by positivity)), mul_comm, Nat.mod_add_div]

/-! ## Groups -/

/-- All checks of a last group, with its symbols and its padding apart. -/
theorem lastGroup_checked {offset : ℕ} {group out : Bytes} : lastGroup offset group = .ok out ↔
    ∃ n, number offset 0 (group.takeWhile (· ≠ pad)) = .ok n ∧
      (∀ b ∈ group.dropWhile (· ≠ pad), b = pad) ∧ 2 ≤ (group.takeWhile (· ≠ pad)).length ∧
      group.length = 4 ∧ n % 4 ^ (group.dropWhile (· ≠ pad)).length = 0 ∧
      bytes (n / 4 ^ (group.dropWhile (· ≠ pad)).length) (3 - (group.dropWhile (· ≠ pad)).length) = out := by
  have hspare : ∀ padding, Nat.pow 2 (2 * padding) = 4 ^ padding := fun padding => pow_mul 2 2 padding
  refine bind_eq_ok.trans (exists_congr fun n => and_congr_right fun _ => ?_)
  dsimp only
  rw [guard_eq_ok, guard_eq_ok, guard_eq_ok, guard_eq_ok, pure_eq_ok]
  simp only [hspare, Bool.or_eq_true, Bool.and_eq_true, Bool.not_eq_true', List.isEmpty_eq_false_iff,
    decide_eq_true_eq, List.any_eq_true, not_or, not_and, not_lt, not_exists, not_not, ne_eq]
  constructor
  · rintro ⟨⟨-, hpad⟩, htwo, hfour, hbits, hout⟩
    exact ⟨hpad, htwo, hfour, hbits, hout⟩
  · rintro ⟨hpad, htwo, hfour, hbits, hout⟩
    exact ⟨⟨fun _ => htwo, hpad⟩, htwo, hfour, hbits, hout⟩

theorem takeWhile_group (n count padding : ℕ) :
    (symbols n count ++ List.replicate padding pad).takeWhile (· ≠ pad) = symbols n count ∧
      (symbols n count ++ List.replicate padding pad).dropWhile (· ≠ pad) = List.replicate padding pad := by
  have hall : ∀ b ∈ symbols n count, decide (b ≠ pad) = true := fun b hb => by simpa using symbols_ne_pad b hb
  have hpad : ¬ decide (pad ≠ pad) = true := by decide
  rw [List.takeWhile_append_of_pos hall, List.dropWhile_append_of_pos hall]
  cases padding with
  | zero => simp
  | succ padding => simp

/-- The symbols of a group hold the bits of its bytes, and two spare bits for each padding. -/
theorem bits_eq {padding : ℕ} (h : padding ≤ 2) : 64 ^ (4 - padding) = 256 ^ (3 - padding) * 4 ^ padding := by
  interval_cases padding <;> norm_num

/-- A last group is the symbols of one, two or three bytes, filled up with padding. -/
theorem lastGroup_eq_ok {offset : ℕ} {group out : Bytes} : lastGroup offset group = .ok out ↔
    ∃ padding ≤ 2, out.length = 3 - padding ∧
      group = symbols (octets out * 4 ^ padding) (4 - padding) ++ List.replicate padding pad := by
  rw [lastGroup_checked]
  constructor
  · rintro ⟨n, hn, hpad, htwo, hfour, hbits, rfl⟩
    have hgroup := List.takeWhile_append_dropWhile (p := (· ≠ pad)) (l := group)
    have hlength := congrArg List.length hgroup
    rw [List.length_append, hfour] at hlength
    generalize group.takeWhile (· ≠ pad) = s at *
    generalize group.dropWhile (· ≠ pad) = p at *
    have hle : p.length ≤ 2 := by omega
    have hs : s.length = 4 - p.length := by omega
    obtain ⟨hm, hsymbols⟩ := (number_eq_ok hs).1 hn
    rw [bits_eq hle] at hm
    refine ⟨p.length, hle, length_bytes _ _, ?_⟩
    rw [octets_bytes (Nat.div_lt_of_lt_mul (by rwa [mul_comm])), Nat.div_mul_cancel (Nat.dvd_of_mod_eq_zero hbits),
      ← hsymbols, ← List.eq_replicate_of_mem hpad, hgroup]
  · rintro ⟨padding, hle, hlength, rfl⟩
    obtain ⟨hsymbols, hpadding⟩ := takeWhile_group (octets out * 4 ^ padding) (4 - padding) padding
    have hlt : octets out * 4 ^ padding < 64 ^ (4 - padding) := by
      rw [bits_eq hle, ← hlength]
      exact Nat.mul_lt_mul_of_pos_right (octets_lt out) (by positivity)
    refine ⟨octets out * 4 ^ padding, ?_⟩
    rw [hsymbols, hpadding, number_eq_ok (length_symbols _ _), List.length_append, length_symbols,
      List.length_replicate, Nat.mul_mod_left, Nat.mul_div_cancel _ (by positivity), ← hlength, bytes_octets]
    exact ⟨⟨hlt, rfl⟩, fun b => List.eq_of_mem_replicate, by omega, by omega, rfl, rfl⟩

/-! ## Whole texts -/

theorem encode_three {n : ℕ} (h : n < 256 ^ 3) (rest : Bytes) :
    encode (bytes n 3 ++ rest) = symbols n 4 ++ encode rest := by
  have hoctets := octets_bytes h
  obtain ⟨a, b, c, habc⟩ : ∃ a b c, bytes n 3 = [a, b, c] := ⟨_, _, _, rfl⟩
  rw [habc] at hoctets ⊢
  rw [List.cons_append, List.cons_append, List.cons_append, List.nil_append, encode, hoctets]

theorem exists_three {out : Bytes} (h : 3 ≤ out.length) : ∃ n < 256 ^ 3, ∃ rest, out = bytes n 3 ++ rest := by
  have hlength : (out.take 3).length = 3 := by rw [List.length_take]; omega
  have hlt := octets_lt (out.take 3)
  have hthree := bytes_octets (out.take 3)
  rw [hlength] at hlt hthree
  exact ⟨octets (out.take 3), hlt, out.drop 3, by rw [hthree, List.take_append_drop]⟩

theorem length_encode (bs : Bytes) : (encode bs).length = 4 * ((bs.length + 2) / 3) := by
  fun_induction encode bs with
  | case1 a b c rest ih =>
    rw [List.length_append, length_symbols, ih]
    simp only [List.length_cons]
    omega
  | case2 | case3 =>
    rw [List.length_append, length_symbols]
    simp
  | case4 => rfl

theorem encode_last {out : Bytes} {padding : ℕ} (h : padding ≤ 2) (hlength : out.length = 3 - padding) :
    encode out = symbols (octets out * 4 ^ padding) (4 - padding) ++ List.replicate padding pad := by
  interval_cases padding
  · obtain ⟨a, b, c, rfl⟩ := List.length_eq_three.1 hlength
    rw [encode, encode, pow_zero, mul_one]
    rfl
  · obtain ⟨a, b, rfl⟩ := List.length_eq_two.1 hlength
    rw [encode]
    rfl
  · obtain ⟨a, rfl⟩ := List.length_eq_one_iff.1 hlength
    rw [encode]
    rfl

/-- The groups of four symbols, of which all but the last are those of three bytes. -/
theorem groups_eq_ok {offset : ℕ} {text out : Bytes} : groups offset text = .ok out ↔ text = encode out := by
  induction offset, text using groups.induct generalizing out with
  | case1 offset a b c d e rest ih =>
    have hfour : a :: b :: c :: d :: e :: rest = [a, b, c, d] ++ e :: rest := rfl
    have hnumber : ∀ n, number offset 0 [a, b, c, d] = .ok n ↔ n < 256 ^ 3 ∧ [a, b, c, d] = symbols n 4 := by
      intro n
      have hcount : [a, b, c, d].length = 4 := rfl
      rw [number_eq_ok hcount, bits_eq (Nat.zero_le 2), pow_zero, mul_one]
    rw [groups, bind_eq_ok]
    simp only [bind_eq_ok, pure_eq_ok, hnumber, ih, hfour, -Nat.reducePow]
    constructor
    · rintro ⟨n, ⟨hn, hsymbols⟩, more, hmore, rfl⟩
      rw [encode_three hn, hsymbols, hmore]
    · intro h
      -- more than four symbols are the form of at least three bytes
      have hlength := congrArg List.length h
      rw [length_encode, List.length_append, List.length_cons (a := e)] at hlength
      have hlong : [a, b, c, d].length = 4 := rfl
      have hthree : 3 ≤ out.length := by omega
      obtain ⟨n, hn, more, rfl⟩ := exists_three hthree
      rw [encode_three hn] at h
      obtain ⟨hsymbols, hmore⟩ := List.append_inj h (length_symbols _ _).symm
      exact ⟨n, ⟨hn, hsymbols⟩, more, hmore, rfl⟩
  | case2 offset =>
    have hlength := length_encode out
    rw [groups, Except.ok.injEq]
    refine ⟨fun h => h ▸ rfl, fun h => ?_⟩
    rw [← h, List.length_nil] at hlength
    exact (List.length_eq_zero_iff.1 (by omega)).symm
  | case3 offset group hlong hne =>
    have hgroups : groups offset group = lastGroup offset group := by
      rw [groups] <;> assumption
    rw [hgroups, lastGroup_eq_ok]
    constructor
    · rintro ⟨padding, hle, hlength, rfl⟩
      rw [encode_last hle hlength]
    · intro h
      have hlength := length_encode out
      rw [← h] at hlength
      have hshort : group.length ≤ 4 := by
        match group, hlong with
        | a :: b :: c :: d :: e :: rest, hlong => exact (hlong a b c d e rest rfl).elim
        | [], _ | [_], _ | [_, _], _ | [_, _, _], _ | [_, _, _, _], _ => simp
      have hpos : 0 < group.length := List.length_pos_iff.2 hne
      have hcount : out.length = 3 - (3 - out.length) := by omega
      exact ⟨3 - out.length, by omega, hcount, h.trans (encode_last (by omega) hcount)⟩

/-- What is decoded is the form of its bytes, and each list of bytes has one that is decoded. -/
theorem decode_eq_ok {text out : Bytes} : decode text = .ok out ↔ text = encode out := by
  unfold decode
  cases hstray : strayEnd? text with
  | none => exact groups_eq_ok
  | some fault =>
    refine iff_of_false nofun fun h => ?_
    have hlength := length_encode out
    rw [← h] at hlength
    unfold strayEnd? at hstray
    split at hstray
    · rw [if_neg] at hstray
      · cases hstray
      · simp
        omega
    · cases hstray

end EventTally.Base64
