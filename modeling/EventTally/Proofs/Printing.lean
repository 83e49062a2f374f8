import EventTally.Json.Printer
import EventTally.Proofs.Characters
import EventTally.Json.Reader

/-! JSON text that was printed. A value is read back from it, whatever follows it: strings piece by piece,
numbers up to their last digit, and containers by what they hold. -/

namespace EventTally.Json

/-! ## The printed text -/

theorem chars_int (n : ℤ) : chars (int n) =
    if 0 ≤ n then Nat.toDigits 10 n.toNat else '-' :: Nat.toDigits 10 (-n).toNat := by
  change (toString n).toList = _
  rw [show toString n = n.repr from rfl, Int.repr_eq_if]
  split
  · exact Nat.toList_repr
  · rw [String.toList_append, Nat.toList_repr]
    rfl

theorem chars_str (s : String) : chars (str s) = quote s := rfl

theorem chars_arr (js : List Json) : chars (arr js) = '[' :: itemChars js ++ [']'] := rfl

theorem chars_obj (ms : List (String × Json)) : chars (obj ms) = '{' :: memberChars ms ++ ['}'] := rfl

theorem itemChars_singleton (j : Json) : itemChars [j] = chars j := rfl

theorem itemChars_cons_cons (j j' : Json) (js : List Json) :
    itemChars (j :: j' :: js) = chars j ++ ',' :: itemChars (j' :: js) := rfl

theorem memberChars_singleton (name : String) (j : Json) :
    memberChars [(name, j)] = quote name ++ ':' :: chars j := rfl

theorem memberChars_cons_cons (name : String) (j : Json) (m : String × Json)
    (ms : List (String × Json)) : memberChars ((name, j) :: m :: ms) =
      (quote name ++ ':' :: chars j) ++ ',' :: memberChars (m :: ms) := rfl

/-! ## Strings -/

theorem quoted_plain {c : Char} (h : c ≠ '"' ∧ c ≠ '\\') (hc : 0x20 ≤ c.toNat) (rest : Text) :
    quoted (some c :: rest) = (quoted rest).map fun (s, r) => (some c :: s, r) := by
  rw [quoted, if_neg (by omega)]
  · exact h.1
  · intro _ _ _
    exact h.2

theorem quoted_backslash (c : Option Char) (rest : Text) : quoted (some '\\' :: c :: rest) =
    (quoted rest).map fun (s, r) => (some '\\' :: c :: s, r) := rfl

theorem digit_plain (n : ℕ) : (Hex.digit n ≠ '"' ∧ Hex.digit n ≠ '\\') ∧ 0x20 ≤ (Hex.digit n).toNat := by
  have h : ∀ n < 16, (Nat.digitChar n ≠ '"' ∧ Nat.digitChar n ≠ '\\') ∧ 0x20 ≤ (Nat.digitChar n).toNat := by
    decide
  exact h (n % 16) (Nat.mod_lt n (by decide))

/-- How a character is escaped: with one more character, with its number, or not at all. -/
theorem escape_cases (c : Char) :
    (∃ e, escape c = ['\\', e] ∧ e ≠ 'u' ∧ simpleEscape? e = some c) ∨
    (c.toNat < 0x20 ∧
      escape c = ['\\', 'u', '0', '0', Hex.digit (c.toNat / 16), Hex.digit c.toNat]) ∨
    (0x20 ≤ c.toNat ∧ c ≠ '"' ∧ c ≠ '\\' ∧ escape c = [c]) := by
  unfold escape
  split
  · exact .inl ⟨_, rfl, by decide, rfl⟩
  · exact .inl ⟨_, rfl, by decide, rfl⟩
  · exact .inl ⟨_, rfl, by decide, rfl⟩
  · exact .inl ⟨_, rfl, by decide, rfl⟩
  · exact .inl ⟨_, rfl, by decide, rfl⟩
  · exact .inl ⟨_, rfl, by decide, rfl⟩
  · exact .inl ⟨_, rfl, by decide, rfl⟩
  · rename_i hquote hslash _ _ _ _ _
    split
    · exact .inr (.inl ⟨‹_›, rfl⟩)
    · exact .inr (.inr ⟨by omega, hquote, hslash, rfl⟩)

theorem quoted_escape (c : Char) (rest : Text) : quoted ((escape c).map some ++ rest) =
    (quoted rest).map fun (s, r) => ((escape c).map some ++ s, r) := by
  rcases escape_cases c with ⟨e, he, -, -⟩ | ⟨-, he⟩ | ⟨hc, hquote, hslash, he⟩
  · rw [he]
    rfl
  · have hzero : ('0' ≠ '"' ∧ '0' ≠ '\\') ∧ 0x20 ≤ '0'.toNat := by decide
    have hhigh := digit_plain (c.toNat / 16)
    have hlow := digit_plain c.toNat
    rw [he]
    simp only [List.map_cons, List.map_nil, List.cons_append, List.nil_append, quoted_backslash,
      quoted_plain hzero.1 hzero.2, quoted_plain hhigh.1 hhigh.2, quoted_plain hlow.1 hlow.2,
      Option.map_map]
    rfl
  · rw [he]
    exact quoted_plain ⟨hquote, hslash⟩ hc rest

theorem pieces_unicode (a b c d : Char) (rest : Text) :
    pieces (some '\\' :: some 'u' :: some a :: some b :: some c :: some d :: rest) =
      (hex4? a b c d).bind fun n => (pieces rest).map (unicodePiece n :: ·) := rfl

theorem pieces_simple {e c : Char} (hu : e ≠ 'u') (h : simpleEscape? e = some c) (rest : Text) :
    pieces (some '\\' :: some e :: rest) = (pieces rest).map (.char c :: ·) := by
  rw [pieces, h, Option.bind_eq_bind, Option.bind_some]
  intro _ _ _ _ _ _
  exact hu

theorem pieces_plain {c : Char} (h : c ≠ '\\') (rest : Text) :
    pieces (some c :: rest) = (pieces rest).map (.char c :: ·) := by
  rw [pieces]
  · intro _ _ _ _ _ _
    exact h
  · intro _ _ _
    exact h
  · exact h

theorem pieces_escape (c : Char) (rest : Text) :
    pieces ((escape c).map some ++ rest) = (pieces rest).map (.char c :: ·) := by
  rcases escape_cases c with ⟨e, he, hu, hsimple⟩ | ⟨hc, he⟩ | ⟨-, -, hslash, he⟩
  · rw [he]
    exact pieces_simple hu hsimple rest
  · have hhex : ∀ n < 0x20, hex4? '0' '0' (Hex.digit (n / 16)) (Hex.digit n) = some n := by decide
    have hpiece : unicodePiece c.toNat = .char c := by
      rw [unicodePiece, if_neg (by simp; omega), Char.ofNat_toNat]
    rw [he]
    simp only [List.map_cons, List.map_nil, List.cons_append, List.nil_append, pieces_unicode, hhex _ hc,
      Option.bind_some, hpiece]
  · rw [he]
    exact pieces_plain hslash rest

theorem joined_chars (cs : List Char) : joined (cs.map .char) = some cs := by
  induction cs with
  | nil => rfl
  | cons c cs ih => rw [List.map_cons, joined, ih, Option.map_some]

theorem string_quote (s : String) (rest : Text) :
    string ((s.toList.flatMap escape).map some ++ some '"' :: rest) = some (some s, rest) := by
  have hquoted : quoted ((s.toList.flatMap escape).map some ++ some '"' :: rest) =
      some ((s.toList.flatMap escape).map some, rest) := by
    generalize s.toList = cs
    induction cs with
    | nil => rfl
    | cons c cs ih => rw [List.flatMap_cons, List.map_append, List.append_assoc, quoted_escape, ih,
        Option.map_some]
  have hpieces : pieces ((s.toList.flatMap escape).map some) = some (s.toList.map .char) := by
    generalize s.toList = cs
    induction cs with
    | nil => rfl
    | cons c cs ih => rw [List.flatMap_cons, List.map_append, pieces_escape, ih, Option.map_some,
        List.map_cons]
  simp only [string, hquoted, Option.bind_eq_bind, Option.bind_some, hpieces, joined_chars,
    Option.map_some, String.ofList_toList]

/-! ## Numbers -/

/-- Whether a number could go on with the text. -/
def continuesNumber : Text → Bool
  | some c :: _ => c.isDigit || c == '.' || c == 'e' || c == 'E'
  | _ => false

theorem digitRun_append {ds : List Char} (hd : ∀ c ∈ ds, c.isDigit) {rest : Text}
    (hr : continuesNumber rest = false) : digitRun (ds.map some ++ rest) = (ds, rest) := by
  induction ds with
  | nil =>
    rw [List.map_nil, List.nil_append]
    unfold digitRun
    split
    · rename_i c rest
      have hc : c.isDigit = false := by
        simp only [continuesNumber, Bool.or_eq_false_iff] at hr
        exact hr.1.1.1
      rw [hc]
      rfl
    · rfl
  | cons c ds ih =>
    obtain ⟨hc, hd⟩ := List.forall_mem_cons.1 hd
    rw [List.map_cons, List.cons_append, digitRun, if_pos hc, ih hd]

theorem head?_toDigits {n : ℕ} (hn : 10 ≤ n) : (Nat.toDigits 10 n).head? ≠ some '0' := by
  induction n using Nat.strong_induction_on with
  | _ n ih =>
    rw [Nat.toDigits_of_base_le (by decide) hn]
    by_cases h : 10 ≤ n / 10
    · rw [List.head?_append_of_ne_nil _ Nat.toDigits_ne_nil]
      exact ih (n / 10) (by omega) h
    · have hdigit : ∀ d < 10, 1 ≤ d → some d.digitChar ≠ some '0' := by decide
      rw [Nat.toDigits_of_lt_base (by omega)]
      exact hdigit (n / 10) (by omega) (by omega)

theorem number_toDigits (negative : Bool) {n : ℕ} (hn : n < 2 ^ 64) {rest : Text}
    (hr : continuesNumber rest = false) :
    number negative ((Nat.toDigits 10 n).map some ++ rest) =
      some (integer negative n (String.ofList ((if negative then ['-'] else []) ++ Nat.toDigits 10 n)),
        rest) := by
  have hdigits : ∀ c ∈ Nat.toDigits 10 n, c.isDigit := fun c hc =>
    Nat.isDigit_of_mem_toDigits (by decide) (by decide) hc
  have hzero : ((Nat.toDigits 10 n).length > 1 && (Nat.toDigits 10 n).head? == some '0') = false := by
    by_cases h : 10 ≤ n
    · simp [head?_toDigits h]
    · simp [Nat.toDigits_of_lt_base (show n < 10 by omega)]
  have hvalue : digitsValue (Nat.toDigits 10 n) = n := Nat.ofDigitChars_ten_toDigits
  have hsize : (Nat.toDigits 10 n).length ≤ 20 := Nat.toDigits_length 10 n 20 (by decide) (by omega)
  have hfits : overflows n 0 = false := by
    unfold overflows
    split
    · rfl
    · rw [if_neg (by omega), if_pos (by omega)]
  have hempty : (Nat.toDigits 10 n).isEmpty = false := by simp [Nat.toDigits_ne_nil]
  unfold number
  rw [digitRun_append hdigits hr]
  simp only [hempty, hzero, Bool.or_self, Bool.false_eq_true, if_false]
  -- what follows is neither a fraction nor an exponent
  split
  · cases hr
  · simp only [Option.bind_eq_bind, Option.bind_some]
    split
    · cases hr
    · cases hr
    · simp [hvalue, hfits]

/-! ## Single values -/

/-- White space between the parts of a text. -/
def isSpace (c : Char) : Bool := c == ' ' || c == '\n' || c == '\t' || c == '\r'

theorem skipBlank_cons {c : Char} (h : isSpace c = false) (rest : Text) :
    skipBlank (some c :: rest) = some c :: rest := by
  have hc : (c == ' ' || c == '\n' || c == '\t' || c == '\r') = false := h
  rw [skipBlank, hc]
  rfl

theorem not_isSpace_of_isDigit {c : Char} (h : c.isDigit) : isSpace c = false := by
  rw [Bool.eq_false_iff]
  intro hc
  simp only [isSpace, Bool.or_eq_true, beq_iff_eq] at hc
  rcases hc with ((rfl | rfl) | rfl) | rfl <;> exact absurd h (by decide)

theorem value_digit {c : Char} (h : c.isDigit) (fuel : ℕ) (rest : Text) :
    value (fuel + 1) (some c :: rest) = number false (some c :: rest) := by
  rw [value, skipBlank_cons (not_isSpace_of_isDigit h)]
  split
  case h_8 => rfl
  all_goals
    rename_i heq
    cases heq
    exact absurd h (by decide)

section

variable (fuel : ℕ) (rest : Text)

theorem value_minus : value (fuel + 1) (some '-' :: rest) = number true rest := rfl

theorem value_quote : value (fuel + 1) (some '"' :: rest) =
    (string rest).map fun (s, r) => (s.elim unreadable str, r) := rfl

theorem value_bracket : value (fuel + 1) (some '[' :: rest) =
    match skipBlank rest with
    | some ']' :: r => some (arr [], r)
    | r => (items fuel r).map fun (js, r') => (arr js, r') := rfl

theorem value_brace : value (fuel + 1) (some '{' :: rest) =
    match skipBlank rest with
    | some '}' :: r => some (obj [], r)
    | r => (members fuel r).map fun (ms, r') => (ms.elim unreadable obj, r') := rfl

theorem value_items {c : Char} (hc : c ≠ ']') (hblank : isSpace c = false) {js : List Json} {tail : Text}
    (h : items fuel (some c :: tail) = some (js, rest)) :
    value (fuel + 1) (some '[' :: some c :: tail) = some (arr js, rest) := by
  rw [value_bracket, skipBlank_cons hblank]
  split
  · rename_i heq
    cases heq
    exact absurd rfl hc
  · rw [h]
    rfl

theorem value_members {ms : List (String × Json)} {tail : Text}
    (h : members fuel (some '"' :: tail) = some (some ms, rest)) :
    value (fuel + 1) (some '{' :: some '"' :: tail) = some (obj ms, rest) := by
  rw [value_brace, skipBlank_cons (by decide)]
  change (members fuel _).map _ = _
  rw [h]
  rfl

theorem value_null : value (fuel + 1) ((chars null).map some ++ rest) = some (null, rest) := rfl

theorem value_bool (b : Bool) : value (fuel + 1) ((chars (bool b)).map some ++ rest) =
    some (bool b, rest) := by
  cases b <;> rfl

theorem value_str (s : String) : value (fuel + 1) ((chars (str s)).map some ++ rest) =
    some (str s, rest) := by
  rw [chars_str, quote, List.cons_append, List.map_cons, List.cons_append, value_quote, List.map_append,
    List.append_assoc]
  change (string (_ ++ some '"' :: rest)).map _ = _
  rw [string_quote]
  rfl

end

theorem exists_digit (n : ℕ) : ∃ c cs, Nat.toDigits 10 n = c :: cs ∧ c.isDigit := by
  obtain ⟨c, cs, hc⟩ := List.exists_cons_of_ne_nil (Nat.toDigits_ne_nil (n := n) (b := 10))
  exact ⟨c, cs, hc, Nat.isDigit_of_mem_toDigits (by decide) (by decide) (hc ▸ List.mem_cons_self)⟩

theorem value_int {n : ℤ} (low : -0x8000000000000000 ≤ n) (high : n ≤ 0xFFFFFFFFFFFFFFFF) (fuel : ℕ)
    {rest : Text} (hr : continuesNumber rest = false) :
    value (fuel + 1) ((chars (int n)).map some ++ rest) = some (int n, rest) := by
  rw [chars_int]
  split
  · obtain ⟨c, cs, hc, hdigit⟩ := exists_digit n.toNat
    have hnumber := number_toDigits false (n := n.toNat) (by omega) hr
    rw [hc, List.map_cons, List.cons_append, value_digit hdigit, ← List.cons_append, ← List.map_cons, ← hc,
      hnumber, integer, if_neg (by decide), if_pos (by omega), Int.toNat_of_nonneg ‹_›]
  · have hnumber := number_toDigits true (n := (-n).toNat) (by omega) hr
    have hfits : ((-n).toNat == 0 || (-n).toNat > 0x8000000000000000) = false := by
      simp
      omega
    rw [List.map_cons, List.cons_append, value_minus, hnumber, integer, if_pos rfl, hfits,
      if_neg (by decide), Int.toNat_of_nonneg (by omega), neg_neg]

/-! ## Containers -/

/-- A value whose text is exact: all its parts can be read, and its numbers are integers of 64 bits. -/
inductive Exact : Json → Prop where
  | null : Exact null
  | bool (b : Bool) : Exact (bool b)
  | int {n : ℤ} (low : -0x8000000000000000 ≤ n) (high : n ≤ 0xFFFFFFFFFFFFFFFF) : Exact (int n)
  | str (s : String) : Exact (str s)
  | arr {items : List Json} (h : ∀ j ∈ items, Exact j) : Exact (arr items)
  | obj {members : List (String × Json)} (h : ∀ m ∈ members, Exact m.2) : Exact (obj members)

/-- The value is read from its text, whatever follows this. -/
def ReadsBack (j : Json) : Prop :=
  ∀ fuel rest, j.chars.length ≤ fuel → continuesNumber rest = false →
    value (fuel + 1) (j.chars.map some ++ rest) = some (j, rest)

/-- Text of a value starts with a character that is no blank and ends no array. -/
theorem Exact.exists_head {j : Json} (h : j.Exact) (rest : Text) : ∃ c tail,
    j.chars.map some ++ rest = some c :: tail ∧ c ≠ ']' ∧ isSpace c = false := by
  cases h with
  | null => exact ⟨'n', _, rfl, by decide, by decide⟩
  | bool b => cases b <;> exact ⟨_, _, rfl, by decide, by decide⟩
  | @int n =>
    rw [chars_int]
    split
    · obtain ⟨c, cs, hc, hdigit⟩ := exists_digit n.toNat
      refine ⟨c, cs.map some ++ rest, by rw [hc]; rfl, ?_, not_isSpace_of_isDigit hdigit⟩
      rintro rfl
      exact absurd hdigit (by decide)
    · exact ⟨'-', _, rfl, by decide, by decide⟩
  | str s => exact ⟨'"', _, rfl, by decide, by decide⟩
  | arr => exact ⟨'[', _, rfl, by decide, by decide⟩
  | obj => exact ⟨'{', _, rfl, by decide, by decide⟩

theorem exists_head_items {j : Json} (h : j.Exact) (js : List Json) (rest : Text) : ∃ c tail,
    (itemChars (j :: js)).map some ++ some ']' :: rest = some c :: tail ∧ c ≠ ']' ∧ isSpace c = false := by
  cases js with
  | nil => exact h.exists_head _
  | cons j' js =>
    rw [itemChars_cons_cons, List.map_append, List.append_assoc]
    exact h.exists_head _

theorem exists_head_members (m : String × Json) (ms : List (String × Json)) (rest : Text) : ∃ tail,
    (memberChars (m :: ms)).map some ++ some '}' :: rest = some '"' :: tail := by
  obtain ⟨name, j⟩ := m
  cases ms <;> exact ⟨_, rfl⟩

theorem items_succ (fuel : ℕ) (t : Text) : items (fuel + 1) t =
    (value fuel t).bind fun (j, r) =>
      match skipBlank r with
      | some ',' :: r' => (items fuel r').map fun (js, r'') => (j :: js, r'')
      | some ']' :: r' => some ([j], r')
      | _ => none := rfl

theorem items_chars {js : List Json} (hne : js ≠ []) (h : ∀ j ∈ js, j.ReadsBack) {fuel : ℕ}
    (hf : (itemChars js).length < fuel) (rest : Text) :
    items (fuel + 1) ((itemChars js).map some ++ some ']' :: rest) = some (js, rest) := by
  induction js generalizing fuel with
  | nil => exact absurd rfl hne
  | cons j js ih =>
    obtain ⟨hj, hjs⟩ := List.forall_mem_cons.1 h
    obtain ⟨fuel, rfl⟩ : ∃ f, fuel = f + 1 := ⟨fuel - 1, by omega⟩
    cases js with
    | nil =>
      rw [itemChars_singleton] at hf ⊢
      rw [items_succ, hj fuel _ (by omega) rfl]
      rfl
    | cons j' js =>
      rw [itemChars_cons_cons, List.length_append, List.length_cons] at hf
      rw [itemChars_cons_cons, List.map_append, List.append_assoc, List.map_cons, List.cons_append,
        items_succ, hj fuel _ (by omega) rfl, Option.bind_some]
      change (items (fuel + 1) _).map _ = _
      rw [ih (by simp) hjs (by omega)]
      rfl

theorem members_name (name : String) {j : Json} (hj : j.ReadsBack) {fuel : ℕ}
    (hf : (chars j).length ≤ fuel) {rest : Text} (hr : continuesNumber rest = false) :
    members (fuel + 2) ((quote name ++ ':' :: chars j).map some ++ rest) =
      match skipBlank rest with
      | some ',' :: r =>
        (members (fuel + 1) r).map fun (ms, r') => (ms.bind fun ms => some ((name, j) :: ms), r')
      | some '}' :: r => some (some [(name, j)], r)
      | _ => none := by
  have hname : (quote name ++ ':' :: chars j).map some ++ rest =
      some '"' :: ((name.toList.flatMap escape).map some ++
        some '"' :: some ':' :: ((chars j).map some ++ rest)) := by simp [quote]
  rw [hname]
  change (string _).bind _ = _
  rw [string_quote, Option.bind_some]
  dsimp only
  rw [skipBlank_cons (by decide)]
  change (value (fuel + 1) _).bind _ = _
  rw [hj fuel rest hf hr]
  rfl

theorem members_chars {ms : List (String × Json)} (hne : ms ≠ []) (h : ∀ m ∈ ms, m.2.ReadsBack)
    {fuel : ℕ} (hf : (memberChars ms).length < fuel) (rest : Text) :
    members (fuel + 1) ((memberChars ms).map some ++ some '}' :: rest) = some (some ms, rest) := by
  induction ms generalizing fuel with
  | nil => exact absurd rfl hne
  | cons m ms ih =>
    obtain ⟨name, j⟩ := m
    obtain ⟨hj, hms⟩ := List.forall_mem_cons.1 h
    obtain ⟨fuel, rfl⟩ : ∃ f, fuel = f + 1 := ⟨fuel - 1, by omega⟩
    cases ms with
    | nil =>
      rw [memberChars_singleton] at hf ⊢
      simp only [List.length_append, List.length_cons] at hf
      rw [members_name name (j := j) hj (by omega) rfl]
      rfl
    | cons m' ms =>
      rw [memberChars_cons_cons] at hf ⊢
      simp only [List.length_append, List.length_cons] at hf
      rw [List.map_append, List.append_assoc, List.map_cons, List.cons_append,
        members_name name (j := j) hj (by omega) rfl]
      change (members (fuel + 1) _).map _ = _
      rw [ih (by simp) hms (by omega)]
      rfl

theorem Exact.readsBack {j : Json} (h : j.Exact) : j.ReadsBack := by
  induction h with
  | null => exact fun fuel rest _ _ => value_null fuel rest
  | bool b => exact fun fuel rest _ _ => value_bool fuel rest b
  | int low high => exact fun fuel _ _ hr => value_int low high fuel hr
  | str s => exact fun fuel rest _ _ => value_str fuel rest s
  | @arr js h ih =>
    intro fuel rest hf hr
    have hchars : (Json.arr js).chars.map some ++ rest =
        some '[' :: ((itemChars js).map some ++ some ']' :: rest) := by simp [chars_arr]
    have hlength : (Json.arr js).chars.length = (itemChars js).length + 2 := by simp [chars_arr]
    obtain ⟨fuel, rfl⟩ : ∃ f, fuel = f + 1 := ⟨fuel - 1, by omega⟩
    rw [hchars]
    cases js with
    | nil =>
      rw [value_bracket]
      rfl
    | cons j js =>
      have hlt : (itemChars (j :: js)).length < fuel := by omega
      have hitems := items_chars (by simp) ih hlt rest
      obtain ⟨c, tail, ht, hc, hblank⟩ := exists_head_items (h j (by simp)) js rest
      rw [ht] at hitems ⊢
      exact value_items _ rest hc hblank hitems
  | @obj ms h ih =>
    intro fuel rest hf hr
    have hchars : (Json.obj ms).chars.map some ++ rest =
        some '{' :: ((memberChars ms).map some ++ some '}' :: rest) := by simp [chars_obj]
    have hlength : (Json.obj ms).chars.length = (memberChars ms).length + 2 := by simp [chars_obj]
    obtain ⟨fuel, rfl⟩ : ∃ f, fuel = f + 1 := ⟨fuel - 1, by omega⟩
    rw [hchars]
    cases ms with
    | nil =>
      rw [value_brace]
      rfl
    | cons m ms =>
      have hlt : (memberChars (m :: ms)).length < fuel := by omega
      have hmembers := members_chars (by simp) ih hlt rest
      obtain ⟨tail, ht⟩ := exists_head_members m ms rest
      rw [ht] at hmembers ⊢
      exact value_members _ rest hmembers

/-- A value is read back from its text. -/
theorem Exact.parse?_chars {j : Json} (h : j.Exact) : parse? (j.chars.map some) = some j := by
  have hvalue := h.readsBack (j.chars.map some).length [] (by simp) rfl
  rw [List.append_nil] at hvalue
  rw [parse?, hvalue]
  rfl

theorem Exact.ofBytes?_render {j : Json} (h : j.Exact) : ofBytes? (Utf8.encode j.render) = some j := by
  rw [ofBytes?, Utf8.scan_encode, render, String.toList_ofList, h.parse?_chars]

end EventTally.Json
