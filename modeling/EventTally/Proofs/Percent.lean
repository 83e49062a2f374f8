import EventTally.Url.Percent
import Mathlib

/-! Percent encoding and decoding, and how they fit together. A byte that belongs to no escape marks a
place at which decoding may be cut; encoding some characters does not change what is decoded, and
decoding that keeps the length keeps everything. What is written in a form is read back. -/

namespace EventTally

/-! ## Bytes of characters -/

namespace Utf8

/-- The bytes of characters. -/
def bytesOf (cs : List Char) : List UInt8 := cs.flatMap String.utf8EncodeChar

theorem bytesOf_append (cs ds : List Char) : bytesOf (cs ++ ds) = bytesOf cs ++ bytesOf ds :=
  List.flatMap_append

theorem bytesOf_cons (c : Char) (cs : List Char) :
    bytesOf (c :: cs) = String.utf8EncodeChar c ++ bytesOf cs := List.flatMap_cons

theorem encode_ofList (cs : List Char) : encode (String.ofList cs) = bytesOf cs := by
  rw [encode, String.toUTF8_eq_toByteArray, String.toByteArray_ofList, List.utf8Encode,
    List.data_toByteArray]
  rfl

theorem encode_eq (s : String) : encode s = bytesOf s.toList := by
  rw [← encode_ofList, String.ofList_toList]

theorem encode_append (s t : String) : encode (s ++ t) = encode s ++ encode t := by
  rw [encode_eq, encode_eq, encode_eq, String.toList_append, bytesOf_append]

theorem encode_injective {s t : String} (h : encode s = encode t) : s = t :=
  String.toByteArray_inj.1 (ByteArray.ext (Array.toList_inj.1 h))

theorem bytesOf_injective {cs ds : List Char} (h : bytesOf cs = bytesOf ds) : cs = ds := by
  rw [← encode_ofList, ← encode_ofList] at h
  exact String.ofList_injective (encode_injective h)

/-- What the characters with the numbers of ASCII have. -/
theorem forall_ascii {p : Char → Prop} (h : ∀ n < 0x80, p (Char.ofNat n)) (c : Char)
    (hc : c.toNat < 0x80) : p c := by
  have hp := h c.toNat hc
  rwa [Char.ofNat_toNat] at hp

theorem utf8EncodeChar_ascii {c : Char} (h : c.toNat < 0x80) :
    String.utf8EncodeChar c = [UInt8.ofNat c.toNat] := by
  rw [String.utf8EncodeChar]
  exact if_pos (Nat.le_of_lt_succ h)

theorem utf8EncodeChar_ne_nil (c : Char) : String.utf8EncodeChar c ≠ [] := by
  rw [← List.length_pos_iff, String.length_utf8EncodeChar]
  exact c.utf8Size_pos

/-- No byte of a character that is not ASCII is one of an ASCII character. -/
theorem le_of_mem_utf8EncodeChar {c : Char} (h : 0x80 ≤ c.toNat) :
    ∀ b ∈ String.utf8EncodeChar c, 0x80 ≤ b.toNat := by
  rw [String.utf8EncodeChar]
  intro b hb
  split at hb
  · rename_i hle
    have hlt : c.toNat ≤ 0x7f := hle
    omega
  · split_ifs at hb <;> simp only [List.mem_cons, List.not_mem_nil, or_false] at hb <;>
      rcases hb with rfl | rfl | rfl | rfl <;> simp <;> omega

end Utf8

namespace Percent

open Utf8 (bytesOf)

/-! ## Decoding -/

def isHexByte (b : UInt8) : Bool := (Hex.value? (Char.ofNat b.toNat)).isSome

theorem hexByte?_left {a : UInt8} (h : isHexByte a = false) (b : UInt8) : hexByte? a b = none := by
  rw [isHexByte, Option.isSome_eq_false_iff, Option.isNone_iff_eq_none] at h
  simp [hexByte?, h]

theorem hexByte?_right {b : UInt8} (h : isHexByte b = false) (a : UInt8) : hexByte? a b = none := by
  rw [isHexByte, Option.isSome_eq_false_iff, Option.isNone_iff_eq_none] at h
  simp [hexByte?, h]

theorem decode_cons {b : UInt8} (h : b ≠ 37) (bs : List UInt8) : decode (b :: bs) = b :: decode bs := by
  rw [decode]
  simp [h]

theorem decode_three (a b : UInt8) (bs : List UInt8) : decode (37 :: a :: b :: bs) =
    match hexByte? a b with
    | some byte => byte :: decode bs
    | none => 37 :: decode (a :: b :: bs) := rfl

theorem decode_escape {a b byte : UInt8} (h : hexByte? a b = some byte) (bs : List UInt8) :
    decode (37 :: a :: b :: bs) = byte :: decode bs := by rw [decode_three, h]

theorem decode_no_escape {a b : UInt8} (h : hexByte? a b = none) (bs : List UInt8) :
    decode (37 :: a :: b :: bs) = 37 :: decode (a :: b :: bs) := by rw [decode_three, h]

/-- A percent sign without a digit behind it. -/
theorem decode_percent {b : UInt8} (h : isHexByte b = false) (bs : List UInt8) :
    decode (37 :: b :: bs) = 37 :: decode (b :: bs) := by
  rcases bs with _ | ⟨d, bs⟩
  · rfl
  · exact decode_no_escape (hexByte?_left h d) bs

/-- A percent sign with but one digit behind it. -/
theorem decode_percent_digit {b : UInt8} (h : isHexByte b = false) (a : UInt8) (bs : List UInt8) :
    decode (37 :: a :: b :: bs) = 37 :: decode (a :: b :: bs) :=
  decode_no_escape (hexByte?_right h a) bs

theorem decode_ne_nil {bs : List UInt8} (h : bs ≠ []) : decode bs ≠ [] := by
  fun_cases decode bs <;> simp_all

/-- Every escape makes the bytes fewer. -/
theorem decode_eq_or_shorter (bs : List UInt8) :
    decode bs = bs ∨ (decode bs).length < bs.length := by
  fun_induction decode bs with
  | case1 a b rest byte hb ih =>
    have hle : (decode rest).length ≤ rest.length :=
      ih.elim (fun h => (congrArg List.length h).le) Nat.le_of_lt
    right
    simp only [List.length_cons]
    omega
  | case2 a b rest hb ih => exact ih.imp (congrArg (37 :: ·)) Nat.succ_lt_succ
  | case3 b rest hb ih => exact ih.imp (congrArg (b :: ·)) Nat.succ_lt_succ
  | case4 => exact .inl rfl

theorem length_decode_le (bs : List UInt8) : (decode bs).length ≤ bs.length :=
  (decode_eq_or_shorter bs).elim (fun h => h.symm ▸ le_rfl) Nat.le_of_lt

theorem eq_of_length_decode {bs : List UInt8} (h : bs.length ≤ (decode bs).length) : decode bs = bs :=
  (decode_eq_or_shorter bs).resolve_right h.not_gt

/-- Decoding may be cut at a byte that belongs to no escape. -/
theorem decode_append {m : UInt8} (hm : m ≠ 37) (hx : isHexByte m = false) (xs ys : List UInt8) :
    decode (xs ++ m :: ys) = decode xs ++ m :: decode ys := by
  fun_induction decode xs with
  | case1 a b rest byte hb ih =>
    rw [List.cons_append, List.cons_append, List.cons_append, decode_escape hb, ih, List.cons_append]
  | case2 a b rest hb ih =>
    rw [List.cons_append, List.cons_append, List.cons_append, decode_no_escape hb]
    exact congrArg (37 :: ·) ih
  | case3 b rest hb ih =>
    rw [List.cons_append, List.cons_append]
    by_cases h : b = 37
    · subst h
      rcases rest with _ | ⟨a, _ | ⟨b, rest⟩⟩
      · exact (decode_percent hx ys).trans (congrArg (37 :: ·) ih)
      · exact (decode_percent_digit hx a ys).trans (congrArg (37 :: ·) ih)
      · exact absurd rfl (hb a b rest rfl)
    · rw [decode_cons h, ih]
  | case4 => exact decode_cons hm ys

/-! ## Encoding -/

/-- Sets that leave percent signs and digits alone. -/
def Sparing (set : List Char) : Prop := ∀ c ∈ set, c ≠ '%' ∧ Hex.value? c = none

theorem sparing_pathSet : Sparing pathSet := by
  have h : pathSet.all fun c => c ≠ '%' && (Hex.value? c).isNone := by decide +kernel
  simpa [Sparing] using h

def isKept (set : List Char) (c : Char) : Bool := isPlain c && !set.contains c

theorem encodeChar_kept {set : List Char} {c : Char} (h : isKept set c) : encodeChar set c = [c] :=
  if_pos h

theorem encodeChar_encoded {set : List Char} {c : Char} (h : isKept set c = false) :
    encodeChar set c = (String.utf8EncodeChar c).flatMap encodeByte := by
  have he : Utf8.encode (String.singleton c) = String.utf8EncodeChar c := by
    rw [Utf8.encode_eq, String.toList_singleton, Utf8.bytesOf_cons]
    simp [bytesOf]
  rw [encodeChar, he]
  exact if_neg (Bool.eq_false_iff.1 h)

theorem forall_byte {p : UInt8 → Prop} (h : ∀ n < 256, p (UInt8.ofNat n)) (b : UInt8) : p b := by
  have hb := h b.toNat b.toNat_lt
  rwa [UInt8.ofNat_toNat] at hb

theorem bytesOf_encodeByte (b : UInt8) : ∃ hi lo, bytesOf (encodeByte b) = [37, hi, lo] ∧
    hexByte? hi lo = some b := by
  refine ⟨UInt8.ofNat (Hex.upperDigit (b.toNat / 16)).toNat,
    UInt8.ofNat (Hex.upperDigit b.toNat).toNat, ?_⟩
  revert b
  exact forall_byte (by decide +kernel)

theorem bounds_of_isHexByte {b : UInt8} (h : isHexByte b) : 0x20 ≤ b.toNat ∧ b.toNat ≤ 0x7E := by
  have hall : ∀ b : UInt8, isHexByte b → 0x20 ≤ b.toNat ∧ b.toNat ≤ 0x7E :=
    forall_byte (by decide +kernel)
  exact hall b h

/-- No byte of an encoded character belongs to an escape. -/
theorem not_hex_of_encoded {set : List Char} (hs : Sparing set) {c : Char} (h : isKept set c = false) :
    ∀ b ∈ String.utf8EncodeChar c, b ≠ 37 ∧ isHexByte b = false := by
  intro b hb
  rw [← Bool.not_eq_true]
  by_cases hc : c.toNat < 0x80
  · rw [Utf8.utf8EncodeChar_ascii hc, List.mem_singleton] at hb
    have hn : b.toNat = c.toNat := by
      rw [hb]
      exact UInt8.toNat_ofNat_of_lt' (hc.trans (by decide))
    have hkept : isPlain c → c ∉ set → False := fun hp hm => by simp [isKept, hp, hm] at h
    refine ⟨fun he => ?_, fun hx => ?_⟩
    · obtain rfl : c = '%' := Char.toNat_inj.1 (hn.symm.trans (congrArg UInt8.toNat he))
      exact hkept (by decide) fun hm => (hs _ hm).1 rfl
    · have hp := bounds_of_isHexByte hx
      rw [isHexByte, hn, Char.ofNat_toNat] at hx
      refine hkept (by simpa [isPlain, ← hn] using hp) fun hm => ?_
      rw [(hs _ hm).2] at hx
      cases hx
  · have hle := Utf8.le_of_mem_utf8EncodeChar (by omega) b hb
    refine ⟨fun he => ?_, fun hx => ?_⟩
    · rw [he] at hle
      exact absurd hle (by decide)
    · have hp := bounds_of_isHexByte hx
      omega

/-- Bytes that are decoded alike, also behind the start of an escape. -/
structure Alike (xs ys : List UInt8) : Prop where
  here : decode xs = decode ys
  percent : decode (37 :: xs) = decode (37 :: ys)
  digit : ∀ a, decode (37 :: a :: xs) = decode (37 :: a :: ys)

theorem Alike.cons {xs ys : List UInt8} (h : Alike xs ys) (b : UInt8) : Alike (b :: xs) (b :: ys) := by
  have hhere : decode (b :: xs) = decode (b :: ys) := by
    by_cases hb : b = 37
    · rw [hb, h.percent]
    · rw [decode_cons hb, decode_cons hb, h.here]
  refine ⟨hhere, h.digit b, fun a => ?_⟩
  have htail : decode (a :: b :: xs) = decode (a :: b :: ys) := by
    by_cases ha : a = 37
    · rw [ha, h.digit b]
    · rw [decode_cons ha, decode_cons ha, hhere]
  rw [decode_three, decode_three, htail, h.here]

theorem Alike.of_not_hex {b c : UInt8} {xs ys : List UInt8} (hb : isHexByte b = false)
    (hc : isHexByte c = false) (h : decode (b :: xs) = decode (c :: ys)) :
    Alike (b :: xs) (c :: ys) := by
  refine ⟨h, ?_, fun a => ?_⟩
  · rw [decode_percent hb, decode_percent hc, h]
  · rw [decode_percent_digit hb, decode_percent_digit hc]
    by_cases ha : a = 37
    · rw [ha, decode_percent hb, decode_percent hc, h]
    · rw [decode_cons ha, decode_cons ha, h]

theorem decode_encoded (bs xs : List UInt8) :
    decode (bytesOf (bs.flatMap encodeByte) ++ xs) = bs ++ decode xs := by
  induction bs with
  | nil => rfl
  | cons b bs ih =>
    obtain ⟨hi, lo, hb, hx⟩ := bytesOf_encodeByte b
    rw [List.flatMap_cons, Utf8.bytesOf_append, hb]
    simp only [List.cons_append, List.nil_append]
    rw [decode_escape hx, ih]

theorem decode_raw {bs : List UInt8} (h : ∀ b ∈ bs, b ≠ 37) (xs : List UInt8) :
    decode (bs ++ xs) = bs ++ decode xs := by
  induction bs with
  | nil => rfl
  | cons b bs ih =>
    obtain ⟨hb, hbs⟩ := List.forall_mem_cons.1 h
    rw [List.cons_append, decode_cons hb, ih hbs, List.cons_append]

theorem alike_encode {set : List Char} (hs : Sparing set) (cs : List Char) :
    Alike (bytesOf (cs.flatMap (encodeChar set))) (bytesOf cs) := by
  induction cs with
  | nil => exact ⟨rfl, rfl, fun _ => rfl⟩
  | cons c cs ih =>
    rw [List.flatMap_cons, Utf8.bytesOf_append, Utf8.bytesOf_cons]
    cases h : isKept set c with
    | true =>
      have hc : c.toNat < 0x80 := by
        simp only [isKept, isPlain, Bool.and_eq_true, decide_eq_true_eq] at h
        omega
      rw [encodeChar_kept h, Utf8.bytesOf_cons, Utf8.utf8EncodeChar_ascii hc]
      exact ih.cons _
    | false =>
      have hraw := not_hex_of_encoded hs h
      have hdecode : decode (bytesOf (encodeChar set c) ++ bytesOf (cs.flatMap (encodeChar set))) =
          decode (String.utf8EncodeChar c ++ bytesOf cs) := by
        rw [encodeChar_encoded h, decode_encoded, decode_raw fun b hb => (hraw b hb).1, ih.here]
      obtain ⟨b, bs, hb⟩ := List.exists_cons_of_ne_nil (Utf8.utf8EncodeChar_ne_nil c)
      obtain ⟨hi, lo, he, -⟩ := bytesOf_encodeByte b
      rw [encodeChar_encoded h, hb, List.flatMap_cons, Utf8.bytesOf_append, he] at hdecode ⊢
      exact .of_not_hex (by decide) (hraw b (by simp [hb])).2 hdecode

theorem decode_encode {set : List Char} (hs : Sparing set) (cs : List Char) :
    decode (bytesOf (cs.flatMap (encodeChar set))) = decode (bytesOf cs) := (alike_encode hs cs).here

theorem slash_not_mem_encode {set cs : List Char} (h : '/' ∉ cs) : '/' ∉ (encode set cs).toList := by
  have hdigit : ∀ n, Hex.upperDigit n ≠ '/' := fun n => by
    have hall : ∀ m < 16, (Nat.digitChar m).toUpper ≠ '/' := by decide
    exact hall (n % 16) (Nat.mod_lt _ (by decide))
  rw [encode, String.toList_ofList, List.mem_flatMap]
  rintro ⟨c, hc, hm⟩
  rw [encodeChar] at hm
  split at hm
  · exact h (List.mem_singleton.1 hm ▸ hc)
  · obtain ⟨b, -, hb⟩ := List.mem_flatMap.1 hm
    have hor : '/' = Hex.upperDigit (b.toNat / 16) ∨ '/' = Hex.upperDigit b.toNat := by
      simpa [encodeByte] using hb
    exact hor.elim (hdigit _ ·.symm) (hdigit _ ·.symm)

/-! ## Forms -/

/-- A plain byte stands for itself, and is no percent sign. -/
theorem decodePlus_plain : ∀ b, isFormPlain b →
    decodePlus (bytesOf [Char.ofNat b.toNat]) = [b] ∧ b ≠ 37 :=
  forall_byte (by decide +kernel)

/-- An escape holds no plus sign. -/
theorem decodePlus_encodeByte :
    ∀ b, decodePlus (bytesOf (encodeByte b)) = bytesOf (encodeByte b) :=
  forall_byte (by decide +kernel)

theorem decode_formByte (b : UInt8) (xs : List UInt8) :
    decode (decodePlus (bytesOf (encodeFormByte b)) ++ xs) = b :: decode xs := by
  unfold encodeFormByte
  split_ifs with hs hp
  · have hspace : decodePlus (bytesOf ['+']) = [0x20] := by decide +kernel
    rw [hspace, hs]
    exact decode_cons (by decide) xs
  · obtain ⟨hb, hne⟩ := decodePlus_plain b hp
    rw [hb]
    exact decode_cons hne xs
  · obtain ⟨hi, lo, hb, hx⟩ := bytesOf_encodeByte b
    rw [decodePlus_encodeByte, hb, List.cons_append, List.cons_append, List.cons_append,
      decode_escape hx, List.nil_append]

/-- What is written in a form is read back. -/
theorem decode_encodeForm (s : String) :
    decode (decodePlus (Utf8.encode (encodeForm s))) = Utf8.encode s := by
  have hbytes : ∀ bs : List UInt8, decode (decodePlus (bytesOf (bs.flatMap encodeFormByte))) = bs := by
    intro bs
    induction bs with
    | nil => rfl
    | cons b bs ih =>
      have happend : ∀ xs ys, decodePlus (xs ++ ys) = decodePlus xs ++ decodePlus ys := by
        simp [decodePlus]
      rw [List.flatMap_cons, Utf8.bytesOf_append, happend, decode_formByte, ih]
  rw [encodeForm, Utf8.encode_ofList, hbytes]

theorem encodeForm_injective {s t : String} (h : encodeForm s = encodeForm t) : s = t := by
  apply Utf8.encode_injective
  rw [← decode_encodeForm s, h, decode_encodeForm]

end Percent
end EventTally
