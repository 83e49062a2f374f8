import EventTally.Watch.Line
import Mathlib

/-! Lines of a stream. Any stream is a list of lines, each with its newline, and a tail without one, and its
lines are the pieces between its newlines. Taking lines out of a buffer, as many as there are, gives
`lines` of its bytes and leaves the tail, so what is found in a stream does not depend on the chunks in
which it comes. -/

namespace EventTally

namespace Line

/-- Lines, each with its newline. -/
def write (ls : List Bytes) : Bytes := ls.flatMap (· ++ [newline])

/-- What counts of a line: nothing if it is blank. -/
def content? (line : Bytes) : Option Bytes :=
  if (dropReturn line).isEmpty then none else some (dropReturn line)

@[simp] theorem write_nil : write [] = [] := rfl

@[simp] theorem write_cons (l : Bytes) (ls : List Bytes) :
    write (l :: ls) = l ++ newline :: write ls := by
  simp [write]

theorem write_append (ls ms : List Bytes) : write (ls ++ ms) = write ls ++ write ms := by
  simp [write]

theorem length_le_write (ls : List Bytes) : ls.length ≤ (write ls).length := by
  induction ls with
  | nil => simp
  | cons l ls ih => simp only [write_cons, List.length_append, List.length_cons]; omega

theorem cut?_of_not_mem {l : Bytes} (h : newline ∉ l) : cut? l = none := by
  induction l with
  | nil => rfl
  | cons b l ih =>
    simp only [List.mem_cons, not_or] at h
    obtain ⟨hb, hl⟩ := h
    simp [cut?, Ne.symm hb, ih hl]

theorem cut?_line {l : Bytes} (h : newline ∉ l) (rest : Bytes) :
    cut? (l ++ newline :: rest) = some (l, rest) := by
  induction l with
  | nil => simp [cut?]
  | cons b l ih =>
    simp only [List.mem_cons, not_or] at h
    obtain ⟨hb, hl⟩ := h
    simp [cut?, Ne.symm hb, ih hl]

/-- Every stream is some lines and a tail. -/
theorem exists_write (bytes : Bytes) :
    ∃ ls t, (∀ l ∈ ls, newline ∉ l) ∧ newline ∉ t ∧ bytes = write ls ++ t := by
  induction bytes with
  | nil => exact ⟨[], [], by simp, by simp, rfl⟩
  | cons b bytes ih =>
    obtain ⟨ls, t, hls, ht, rfl⟩ := ih
    by_cases hb : b = newline
    · refine ⟨[] :: ls, t, ?_, ht, by simp [hb]⟩
      simpa using hls
    · cases ls with
      | nil => exact ⟨[], b :: t, by simp, by simp [Ne.symm hb, ht], rfl⟩
      | cons l ls =>
        refine ⟨(b :: l) :: ls, t, ?_, ht, by simp⟩
        simpa [Ne.symm hb] using hls

theorem lines_of_not_mem {t : Bytes} (h : newline ∉ t) : lines t = [] := by
  rw [lines]
  split
  · rfl
  · rename_i hc; rw [cut?_of_not_mem h] at hc; cases hc

theorem lines_line {l : Bytes} (h : newline ∉ l) (rest : Bytes) :
    lines (l ++ newline :: rest) = (content? l).toList ++ lines rest := by
  rw [lines]
  split
  · rename_i hc; rw [cut?_line h] at hc; cases hc
  · rename_i hc
    rw [cut?_line h] at hc
    cases hc
    unfold content?
    by_cases he : (dropReturn l).isEmpty <;> simp only [he] <;> rfl

theorem lines_write {ls : List Bytes} (h : ∀ l ∈ ls, newline ∉ l) {t : Bytes} (ht : newline ∉ t) :
    lines (write ls ++ t) = ls.filterMap content? := by
  induction ls with
  | nil => simpa using lines_of_not_mem ht
  | cons l ls ih =>
    rw [write_cons, List.append_assoc, List.cons_append, lines_line (h l (by simp)),
      ih fun m hm => h m (by simp [hm]), List.filterMap_cons]
    cases content? l <;> rfl

/-- The tail of a stream has no line yet, whatever lines stood before it. -/
theorem lines_append (ls : List Bytes) (h : ∀ l ∈ ls, newline ∉ l) (bytes : Bytes) :
    lines (write ls ++ bytes) = ls.filterMap content? ++ lines bytes := by
  obtain ⟨ms, t, hms, ht, rfl⟩ := exists_write bytes
  rw [← List.append_assoc, ← write_append, lines_write _ ht, lines_write hms ht,
    List.filterMap_append]
  intro l hl
  rcases List.mem_append.1 hl with hl | hl
  · exact h l hl
  · exact hms l hl

/-- Cutting a stream of lines at any byte keeps some of the lines whole. -/
theorem lines_take_write {ls : List Bytes} (h : ∀ l ∈ ls, newline ∉ l) (n : ℕ) :
    ∃ k, lines ((write ls).take n) = (ls.take k).filterMap content? ∧
      ((write ls).length ≤ n → k = ls.length) := by
  induction ls generalizing n with
  | nil => exact ⟨0, by simp [lines_of_not_mem], by simp⟩
  | cons l ls ih =>
    have hl : newline ∉ l := h l (by simp)
    by_cases hn : n ≤ l.length
    · refine ⟨0, ?_, ?_⟩
      · rw [write_cons, List.take_append_of_le_length hn]
        simpa using lines_of_not_mem fun hm => hl (List.mem_of_mem_take hm)
      · simp only [write_cons, List.length_append, List.length_cons]; omega
    · obtain ⟨m, rfl⟩ : ∃ m, n = l.length + (m + 1) := ⟨n - l.length - 1, by omega⟩
      obtain ⟨k, hk, hlen⟩ := ih (fun x hx => h x (by simp [hx])) m
      refine ⟨k + 1, ?_, ?_⟩
      · rw [write_cons, List.take_length_add_append, List.take_succ_cons, lines_line hl, hk,
          List.take_succ_cons, List.filterMap_cons]
        cases content? l <;> rfl
      · intro hm
        simp only [write_cons, List.length_append, List.length_cons] at hm
        simp [hlen (by omega)]

/-! ## Pieces -/

/-- What stands between the newlines of a stream, each piece without the carriage return at its end and the
empty ones left out. The last piece has no newline yet. -/
def contents (bytes : Bytes) : List Bytes :=
  ((bytes.splitOn newline).dropLast.map dropReturn).filter (!·.isEmpty)

theorem splitOn_write {ls : List Bytes} (h : ∀ l ∈ ls, newline ∉ l) {t : Bytes} (ht : newline ∉ t) :
    (write ls ++ t).splitOn newline = ls ++ [t] := by
  induction ls with
  | nil => exact List.splitOn_eq_singleton ht
  | cons l ls ih =>
    obtain ⟨hl, hls⟩ := List.forall_mem_cons.1 h
    rw [write_cons, List.append_assoc, List.cons_append, List.splitOn_append_cons_self_of_not_mem hl, ih hls,
      List.cons_append]

theorem contents_write {ls : List Bytes} (h : ∀ l ∈ ls, newline ∉ l) {t : Bytes} (ht : newline ∉ t) :
    contents (write ls ++ t) = ls.filterMap content? := by
  rw [contents, splitOn_write h ht, List.dropLast_concat, ← List.filterMap_eq_filter, List.filterMap_map]
  refine List.filterMap_congr fun l _ => ?_
  unfold content?
  cases hd : (dropReturn l).isEmpty <;> simp [Option.guard, hd]

/-- The lines of a stream, taken one after the other, are its pieces. -/
theorem lines_eq_contents (bytes : Bytes) : lines bytes = contents bytes := by
  obtain ⟨ls, t, hls, ht, rfl⟩ := exists_write bytes
  rw [lines_write hls ht, contents_write hls ht]

end Line

namespace LineBuffer

open Line

theorem take_of_not_mem {t : Bytes} (h : newline ∉ t) : take t = (none, t) := by
  rw [take]
  split
  · rfl
  · rename_i hc; rw [cut?_of_not_mem h] at hc; cases hc

theorem take_line {l : Bytes} (h : newline ∉ l) (rest : Bytes) :
    take (l ++ newline :: rest) = (content? l).elim (take rest) fun c => (some c, rest) := by
  rw [take]
  split
  · rename_i hc; rw [cut?_line h] at hc; cases hc
  · rename_i hc
    rw [cut?_line h] at hc
    cases hc
    unfold content?
    by_cases he : (dropReturn l).isEmpty <;> simp only [he] <;> rfl

theorem go_write {ls : List Bytes} (h : ∀ l ∈ ls, newline ∉ l) {t : Bytes} (ht : newline ∉ t)
    {fuel : ℕ} (hf : ls.length < fuel) :
    drain.go fuel ⟨write ls ++ t⟩ = (ls.filterMap content?, ⟨t⟩) := by
  induction ls generalizing fuel with
  | nil =>
    obtain ⟨fuel, rfl⟩ : ∃ m, fuel = m + 1 := ⟨fuel - 1, by simp at hf; omega⟩
    simp [drain.go, next, take_of_not_mem ht]
  | cons l ls ih =>
    have hl : newline ∉ l := h l (by simp)
    have hls : ∀ m ∈ ls, newline ∉ m := fun m hm => h m (by simp [hm])
    obtain ⟨fuel, rfl⟩ : ∃ m, fuel = m + 1 := ⟨fuel - 1, by simp at hf; omega⟩
    simp only [List.length_cons, Nat.add_lt_add_iff_right] at hf
    have hnext : next ⟨write (l :: ls) ++ t⟩ =
        (content? l).elim (next ⟨write ls ++ t⟩) fun c => (some c, ⟨write ls ++ t⟩) := by
      simp only [next, write_cons, List.append_assoc, List.cons_append, take_line hl]
      cases content? l <;> rfl
    cases hc : content? l with
    | none =>
      -- a blank line goes together with the line behind it, so the fuel stays
      have hlt : ls.length < fuel + 1 := by omega
      have hrest := ih hls hlt
      rw [drain.go] at hrest ⊢
      rw [hnext, hc, Option.elim_none, hrest, List.filterMap_cons_none hc]
    | some c =>
      rw [drain.go, hnext, hc, Option.elim_some]
      simp only [ih hls hf, List.filterMap_cons_some hc]

/-- Draining gives all lines, and leaves the tail. -/
theorem drain_write {ls : List Bytes} (h : ∀ l ∈ ls, newline ∉ l) {t : Bytes} (ht : newline ∉ t) :
    drain ⟨write ls ++ t⟩ = (ls.filterMap content?, ⟨t⟩) := by
  apply go_write h ht
  have := length_le_write ls
  simp only [List.length_append]
  omega

end LineBuffer
end EventTally
