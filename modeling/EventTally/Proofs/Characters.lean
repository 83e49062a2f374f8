import EventTally.Proofs.Percent

/-! Characters from bytes. A stream that was made from characters has no stray bytes, and its characters
are read back from it. Texts in the order of their characters are in the order of their bytes. -/

namespace EventTally.Utf8

/-! ## Bytes of one character -/

section

variable {a b c d lo hi : UInt8} (ha : ¬ a < 0x80) (hb : lo ≤ b ∧ b ≤ hi) (rest : List UInt8)

include ha hb

theorem first_two (hl : lead a = some (lo, hi, 1)) :
    first a (b :: rest) = some (Char.ofNat (a.toNat % 32 * 64 + low b), 1) := by
  simp [first, ha, hl, hb]

theorem first_three (hl : lead a = some (lo, hi, 2)) (hc : isTail c) :
    first a (b :: c :: rest) = some (Char.ofNat ((a.toNat % 16 * 64 + low b) * 64 + low c), 2) := by
  simp [first, ha, hl, hb, hc]

theorem first_four (hl : lead a = some (lo, hi, 3)) (hc : isTail c) (hd : isTail d) :
    first a (b :: c :: d :: rest) =
      some (Char.ofNat (((a.toNat % 8 * 64 + low b) * 64 + low c) * 64 + low d), 3) := by
  simp [first, ha, hl, hb, hc, hd]

end

theorem first_one {n : ℕ} (hn : n < 0x80) (rest : List UInt8) :
    first (UInt8.ofNat n) rest = some (Char.ofNat n, 0) := by
  have h : ∀ n < 0x80, UInt8.ofNat n < 0x80 ∧ (UInt8.ofNat n).toNat = n := by decide
  rw [first, if_pos (h n hn).1, (h n hn).2]

theorem lead_two : ∀ n < 32, 2 ≤ n → ¬ UInt8.ofNat (n + 0xC0) < 0x80 ∧
    (UInt8.ofNat (n + 0xC0)).toNat % 32 = n ∧
    lead (UInt8.ofNat (n + 0xC0)) = some (0x80, 0xBF, 1) := by decide

theorem lead_three : ∀ n < 16, ¬ UInt8.ofNat (n + 0xE0) < 0x80 ∧
    (UInt8.ofNat (n + 0xE0)).toNat % 16 = n ∧
    lead (UInt8.ofNat (n + 0xE0)) =
      some (if n = 0 then 0xA0 else 0x80, if n = 13 then 0x9F else 0xBF, 2) := by decide

theorem lead_four : ∀ n < 5, ¬ UInt8.ofNat (n + 0xF0) < 0x80 ∧
    (UInt8.ofNat (n + 0xF0)).toNat % 8 = n ∧
    lead (UInt8.ofNat (n + 0xF0)) =
      some (if n = 0 then 0x90 else 0x80, if n = 4 then 0x8F else 0xBF, 3) := by decide

theorem tail : ∀ n < 64, isTail (UInt8.ofNat (n + 0x80)) ∧ low (UInt8.ofNat (n + 0x80)) = n := by decide

/-- The byte after the first one, by the bits of the character that it holds. -/
theorem second : ∀ n < 64, (0x80 ≤ UInt8.ofNat (n + 0x80) ∧ UInt8.ofNat (n + 0x80) ≤ 0xBF) ∧
    (0x20 ≤ n → 0xA0 ≤ UInt8.ofNat (n + 0x80)) ∧ (n < 0x20 → UInt8.ofNat (n + 0x80) ≤ 0x9F) ∧
    (0x10 ≤ n → 0x90 ≤ UInt8.ofNat (n + 0x80)) ∧ (n < 0x10 → UInt8.ofNat (n + 0x80) ≤ 0x8F) := by decide

/-- The first and the last of the bytes that start a character leave less room for the next one. -/
theorem bounds_of_second {isFirst isLast : Prop} [Decidable isFirst] [Decidable isLast] {b lo hi : UInt8}
    (hb : 0x80 ≤ b ∧ b ≤ 0xBF) (hlo : isFirst → lo ≤ b) (hhi : isLast → b ≤ hi) :
    (if isFirst then lo else 0x80) ≤ b ∧ b ≤ if isLast then hi else 0xBF := by
  constructor
  · split_ifs with h
    · exact hlo h
    · exact hb.1
  · split_ifs with h
    · exact hhi h
    · exact hb.2

/-! ## Characters of a stream -/

theorem scan_first {a : UInt8} {c : Char} {more rest : List UInt8}
    (h : first a (more ++ rest) = some (c, more.length)) :
    scan (a :: more ++ rest) = some c :: scan rest := by
  rw [List.cons_append, scan, h]
  simp

theorem scan_utf8EncodeChar (c : Char) (rest : List UInt8) :
    scan (String.utf8EncodeChar c ++ rest) = some c :: scan rest := by
  have hc : Char.ofNat c.val.toNat = c := Char.ofNat_toNat c
  have hvalid : c.val.toNat < 0xD800 ∨ 0xDFFF < c.val.toNat ∧ c.val.toNat < 0x110000 := c.valid
  unfold String.utf8EncodeChar
  generalize c.val.toNat = v at hc hvalid
  dsimp only
  have hmod : ∀ n, n % 64 < 64 := fun n => Nat.mod_lt n (by decide)
  split_ifs with h1 h2 h3
  · apply scan_first
    rw [first_one (by omega), hc]
    rfl
  · obtain ⟨ha, hvalue, hl⟩ := lead_two (v / 64 % 32) (by omega) (by omega)
    have hbits : v / 64 % 32 * 64 + v % 64 = v := by omega
    apply scan_first
    rw [List.singleton_append, first_two ha (second _ (hmod v)).1 rest hl, hvalue, (tail _ (hmod v)).2,
      hbits, hc]
    rfl
  · obtain ⟨ha, hvalue, hl⟩ := lead_three (v / 4096 % 16) (by omega)
    obtain ⟨hrange, hlow, hhigh, -, -⟩ := second (v / 64 % 64) (hmod _)
    have hb := bounds_of_second hrange (fun h : v / 4096 % 16 = 0 => hlow (by omega))
      (fun h : v / 4096 % 16 = 13 => hhigh (by omega))
    have hbits : (v / 4096 % 16 * 64 + v / 64 % 64) * 64 + v % 64 = v := by omega
    apply scan_first
    rw [List.cons_append, List.singleton_append,
      first_three ha hb rest hl (tail _ (hmod v)).1, hvalue, (tail _ (hmod _)).2,
      (tail _ (hmod v)).2, hbits, hc]
    rfl
  · obtain ⟨ha, hvalue, hl⟩ := lead_four (v / 262144 % 8) (by omega)
    obtain ⟨hrange, -, -, hlow, hhigh⟩ := second (v / 4096 % 64) (hmod _)
    have hb := bounds_of_second hrange (fun h : v / 262144 % 8 = 0 => hlow (by omega))
      (fun h : v / 262144 % 8 = 4 => hhigh (by omega))
    have hbits : ((v / 262144 % 8 * 64 + v / 4096 % 64) * 64 + v / 64 % 64) * 64 + v % 64 = v := by omega
    apply scan_first
    rw [List.cons_append, List.cons_append, List.singleton_append,
      first_four ha hb rest hl (tail _ (hmod _)).1 (tail _ (hmod v)).1, hvalue,
      (tail _ (hmod _)).2, (tail _ (hmod _)).2, (tail _ (hmod v)).2, hbits, hc]
    rfl

theorem scan_bytesOf (cs : List Char) : scan (bytesOf cs) = cs.map some := by
  induction cs with
  | nil => rw [bytesOf, List.flatMap_nil, scan, List.map_nil]
  | cons c cs ih => rw [bytesOf_cons, scan_utf8EncodeChar, ih, List.map_cons]

theorem scan_encode (s : String) : scan (encode s) = s.toList.map some := by
  rw [encode_eq, scan_bytesOf]

theorem decode?_encode (s : String) : decode? (encode s) = some s := by
  have hscan : (scan (encode s)).mapM id = some s.toList := by
    rw [scan_encode, List.mapM_map]
    exact List.mapM_pure.trans (congrArg some (List.map_id _))
  rw [decode?, hscan, Option.map_some, String.ofList_toList]

/-! ## Order -/

/-- The digits that four bytes hold. -/
theorem digits_lt {m n : ℕ} (h : m < n) :
    m / 262144 < n / 262144 ∨ m / 262144 = n / 262144 ∧
      (m / 4096 % 64 < n / 4096 % 64 ∨ m / 4096 % 64 = n / 4096 % 64 ∧
        (m / 64 % 64 < n / 64 % 64 ∨ m / 64 % 64 = n / 64 % 64 ∧ m % 64 < n % 64)) := by
  have hm : m = 262144 * (m / 262144) + 4096 * (m / 4096 % 64) + 64 * (m / 64 % 64) + m % 64 := by omega
  have hn : n = 262144 * (n / 262144) + 4096 * (n / 4096 % 64) + 64 * (n / 64 % 64) + n % 64 := by omega
  have hb : m / 4096 % 64 < 64 ∧ m / 64 % 64 < 64 ∧ m % 64 < 64 := by omega
  generalize m / 262144 = a at *
  generalize m / 4096 % 64 = b at *
  generalize m / 64 % 64 = c at *
  generalize m % 64 = d at *
  have hb' : n / 4096 % 64 < 64 ∧ n / 64 % 64 < 64 ∧ n % 64 < 64 := by omega
  generalize n / 262144 = a' at *
  generalize n / 4096 % 64 = b' at *
  generalize n / 64 % 64 = c' at *
  generalize n % 64 = d' at *
  omega

/-- Code points in order have encodings in order, whatever follows them. -/
theorem utf8EncodeChar_lt {c d : Char} (h : c < d) (x y : List UInt8) :
    String.utf8EncodeChar c ++ x < String.utf8EncodeChar d ++ y := by
  have hcd : c.val.toNat < d.val.toNat := h
  have hd : d.val.toNat < 0x110000 := by
    rcases d.valid with hd | ⟨-, hd⟩
    · exact Nat.lt_trans hd (by decide)
    · exact hd
  unfold String.utf8EncodeChar
  simp only []
  generalize d.val.toNat = n at *
  generalize c.val.toNat = m at *
  have hlast : ∀ k, (k % 64 + 128) % 256 = k % 64 + 128 := fun k => by omega
  have hfirst : ∀ k < 0x110000, (k / 262144 % 8 + 240) % 256 = k / 262144 + 240 := fun k hk => by
    omega
  split_ifs
  all_goals try omega
  all_goals simp only [List.cons_append, List.nil_append, List.cons_lt_cons_iff, UInt8.lt_iff_toNat_lt,
    ← UInt8.toNat_inj, UInt8.toNat_ofNat', Nat.reducePow, hlast]
  iterate 9 omega
  -- both have four bytes
  rw [hfirst m (hcd.trans hd), hfirst n hd]
  have hdigits := digits_lt hcd
  omega

theorem bytesOf_lt {cs ds : List Char} (h : cs < ds) : bytesOf cs < bytesOf ds := by
  induction h with
  | @nil d ds =>
    obtain ⟨b, bs, hb⟩ := List.exists_cons_of_ne_nil (utf8EncodeChar_ne_nil d)
    rw [bytesOf_cons, hb]
    exact List.nil_lt_cons _ _
  | @rel c cs d ds h =>
    rw [bytesOf_cons, bytesOf_cons]
    exact utf8EncodeChar_lt h _ _
  | @cons c cs ds h ih =>
    rw [bytesOf_cons, bytesOf_cons]
    exact List.append_left_lt ih

/-- Texts in the order of their code points are in the order of their bytes. -/
theorem encode_lt {s t : String} (h : s < t) : encode s < encode t := by
  rw [encode_eq, encode_eq]
  exact bytesOf_lt (String.lt_iff.1 h)

end EventTally.Utf8
