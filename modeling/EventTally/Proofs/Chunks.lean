import EventTally.Proofs.Lines

/-! Lines taken out of a buffer while its bytes come in. Whatever calls are made, what they have consumed is
some whole lines from the start of the stream, and they have returned what counts of these. So neither the
chunks nor the moments at which lines are asked for make a difference, and no byte is lost. -/

namespace EventTally

namespace Line

/-- A stream has a tail when it ends with a byte other than a newline. -/
theorem tail_ne_nil_iff (ls : List Bytes) {t : Bytes} (ht : newline ∉ t) :
    t ≠ [] ↔ write ls ++ t ≠ [] ∧ (write ls ++ t).getLast? ≠ some newline := by
  constructor
  · intro hne
    refine ⟨by simp [hne], fun hlast => ht ?_⟩
    rw [List.getLast?_append_of_ne_nil _ hne] at hlast
    exact List.mem_of_getLast? hlast
  · rintro ⟨hne, hlast⟩ rfl
    rw [List.append_nil] at hne hlast
    cases ls using List.reverseRecOn with
    | nil => exact hne rfl
    | append_singleton ls l =>
      apply hlast
      rw [write_append, write_cons, write_nil, ← List.append_assoc, List.getLast?_concat]

theorem dropReturn_sublist (l : Bytes) : (dropReturn l).Sublist l := by
  unfold dropReturn
  split
  · exact l.dropLast_sublist
  · exact List.Sublist.refl l

theorem of_content? {l line : Bytes} (h : content? l = some line) (hl : newline ∉ l) :
    line ≠ [] ∧ newline ∉ line := by
  rw [content?, Option.ite_none_left_eq_some] at h
  obtain ⟨hne, ⟨⟩⟩ := h
  exact ⟨by simpa using hne, fun hm => hl ((dropReturn_sublist l).subset hm)⟩

end Line

namespace LineBuffer

open Line

/-! ## Calls -/

inductive Call where
  | push (chunk : Bytes)
  | next

/-- What a call returns, and the buffer behind it. -/
def call (b : LineBuffer) : Call → Option Bytes × LineBuffer
  | .push chunk => (none, b.push chunk)
  | .next => b.next

/-- The lines that calls return, and the buffer behind them. -/
def run (b : LineBuffer) : List Call → List Bytes × LineBuffer
  | [] => ([], b)
  | c :: cs =>
    let (line, b) := b.call c
    let (rest, b) := run b cs
    (line.toList ++ rest, b)

def Call.chunk : Call → Bytes
  | push chunk => chunk
  | next => []

/-- All bytes pushed. -/
def pushed (cs : List Call) : Bytes := cs.flatMap Call.chunk

/-- What is taken out of a buffer is whole lines from its start. -/
theorem take_eq (bytes : Bytes) : ∃ ls, (∀ l ∈ ls, newline ∉ l) ∧
    bytes = write ls ++ (take bytes).2 ∧ (take bytes).1.toList = ls.filterMap content? := by
  obtain ⟨ls, t, hls, ht, rfl⟩ := exists_write bytes
  induction ls with
  | nil => exact ⟨[], by simp, by simp [take_of_not_mem ht], by simp [take_of_not_mem ht]⟩
  | cons l ls ih =>
    obtain ⟨hl, hls⟩ := List.forall_mem_cons.1 hls
    rw [write_cons, List.append_assoc, List.cons_append, take_line hl]
    cases hc : content? l with
    | some c => exact ⟨[l], by simpa using hl, by simp, by simp [hc]⟩
    | none =>
      -- a blank line goes together with those behind it
      obtain ⟨ms, hms, hrest, hline⟩ := ih hls
      refine ⟨l :: ms, List.forall_mem_cons.2 ⟨hl, hms⟩, ?_, ?_⟩
      · rw [write_cons, List.append_assoc, List.cons_append, Option.elim_none, ← hrest]
      · rw [Option.elim_none, hline, List.filterMap_cons_none hc]

/-- What calls have consumed is whole lines from the start of the stream, and what they have returned is what
counts of these. -/
theorem run_eq (cs : List Call) (b : LineBuffer) : ∃ ls, (∀ l ∈ ls, newline ∉ l) ∧
    b.pending ++ pushed cs = write ls ++ (run b cs).2.pending ∧ (run b cs).1 = ls.filterMap content? := by
  induction cs generalizing b with
  | nil => exact ⟨[], by simp, by simp [pushed, run], rfl⟩
  | cons c cs ih =>
    cases c with
    | push chunk =>
      obtain ⟨ls, hls, hbytes, hlines⟩ := ih (b.push chunk)
      refine ⟨ls, hls, ?_, hlines⟩
      rw [push, List.append_assoc] at hbytes
      exact hbytes
    | next =>
      obtain ⟨ls, hls, htaken, hline⟩ := take_eq b.pending
      obtain ⟨ms, hms, hbytes, hlines⟩ := ih ⟨(take b.pending).2⟩
      refine ⟨ls ++ ms, List.forall_mem_append.2 ⟨hls, hms⟩, ?_, ?_⟩
      · rw [write_append, List.append_assoc]
        change _ = write ls ++ (write ms ++ (run ⟨(take b.pending).2⟩ cs).2.pending)
        rw [← hbytes, ← List.append_assoc, ← htaken]
        rfl
      · rw [List.filterMap_append, ← hline, ← hlines]
        rfl

/-! ## Positions -/

/-- The first `n` bytes, and those behind them. Fails where there are fewer. -/
def splitTo? (n : ℕ) (bytes : Bytes) : Option (Bytes × Bytes) :=
  if n ≤ bytes.length then some (bytes.splitAt n) else none

/-- Cuts a carriage return off by its position, which must be in the line. -/
def cutReturn? (line : Bytes) : Option Bytes :=
  if line.getLast? = some 13 then
    if 0 < line.length then (splitTo? (line.length - 1) line).map Prod.fst else none
  else some line

/-- Takes a line by the position of its newline. Fails at a position that is out of range, and where more
rounds are needed. -/
def takeAt? : ℕ → Bytes → Option (Option Bytes × Bytes)
  | 0, _ => none
  | rounds + 1, bytes =>
    match bytes.idxOf? newline with
    | none => some (none, bytes)
    | some n => do
      let (line, rest) ← splitTo? n bytes
      let (_, rest) ← splitTo? 1 rest
      let line ← cutReturn? line
      if line.isEmpty then takeAt? rounds rest else some (some line, rest)

theorem splitTo?_append (l rest : Bytes) : splitTo? l.length (l ++ rest) = some (l, rest) := by
  simp [splitTo?]

theorem cutReturn?_eq (line : Bytes) : cutReturn? line = some (dropReturn line) := by
  unfold cutReturn? dropReturn
  split
  · rename_i hlast
    have hpos : 0 < line.length := List.length_pos_of_mem (List.mem_of_getLast? hlast)
    rw [if_pos hpos, splitTo?, if_pos (by omega), Option.map_some, List.splitAt_eq, List.dropLast_eq_take]
  · rfl

theorem idxOf?_newline {l : Bytes} (h : newline ∉ l) (rest : Bytes) :
    (l ++ newline :: rest).idxOf? newline = some l.length := by
  induction l with
  | nil => simp [List.idxOf?_cons]
  | cons b l ih =>
    simp only [List.mem_cons, not_or] at h
    obtain ⟨hb, hl⟩ := h
    simp [List.idxOf?_cons, Ne.symm hb, ih hl]

theorem takeAt?_line {l : Bytes} (h : newline ∉ l) (rounds : ℕ) (rest : Bytes) :
    takeAt? (rounds + 1) (l ++ newline :: rest) =
      (content? l).elim (takeAt? rounds rest) fun c => some (some c, rest) := by
  have hone : splitTo? 1 (newline :: rest) = some ([newline], rest) := splitTo?_append [newline] rest
  rw [takeAt?, idxOf?_newline h]
  simp only [splitTo?_append, hone, cutReturn?_eq, Option.bind_eq_bind, Option.bind_some]
  unfold content?
  by_cases he : (dropReturn l).isEmpty <;> simp only [he] <;> rfl

/-- Each round uses up a newline, so there are enough rounds, and all positions are in range. -/
theorem takeAt?_eq {bytes : Bytes} {rounds : ℕ} (h : bytes.count newline < rounds) :
    takeAt? rounds bytes = some (take bytes) := by
  obtain ⟨ls, t, hls, ht, rfl⟩ := exists_write bytes
  induction ls generalizing rounds with
  | nil =>
    obtain ⟨rounds, rfl⟩ : ∃ r, rounds = r + 1 := ⟨rounds - 1, by omega⟩
    rw [write_nil, List.nil_append, take_of_not_mem ht, takeAt?, List.idxOf?_eq_none_iff.2 ht]
  | cons l ls ih =>
    obtain ⟨hl, hls⟩ := List.forall_mem_cons.1 hls
    obtain ⟨rounds, rfl⟩ : ∃ r, rounds = r + 1 := ⟨rounds - 1, by omega⟩
    rw [write_cons, List.append_assoc, List.cons_append] at h ⊢
    have hrest : (write ls ++ t).count newline < rounds := by
      rw [List.count_append, List.count_cons_self] at h
      omega
    rw [takeAt?_line hl, take_line hl]
    cases content? l with
    | none => exact ih hls hrest
    | some c => rfl

/-- The next line by positions, with a round for each newline and one for the tail. -/
def nextAt? (b : LineBuffer) : Option (Option Bytes × LineBuffer) :=
  (takeAt? (b.pending.count newline + 1) b.pending).map fun (line, rest) => (line, ⟨rest⟩)

/-! ## Streams -/

/-- Whatever calls are made on a new buffer, the lines that they return and those that are still in the buffer
are the lines of all bytes pushed. Behind these lines stays the tail of the stream, from which no line can be
taken. -/
theorem run_drain (cs : List Call) :
    let ran := run {} cs
    let drained := ran.2.drain
    ran.1 ++ drained.1 = contents (pushed cs) ∧
    (∀ line ∈ ran.1 ++ drained.1, line ≠ [] ∧ newline ∉ line) ∧
    drained.2.next = (none, drained.2) ∧
    ((pushed cs).splitOn newline).getLast? = some drained.2.pending ∧
    (drained.2.hasRemainder ↔ pushed cs ≠ [] ∧ (pushed cs).getLast? ≠ some newline) ∧
    ∀ b : LineBuffer, b.nextAt? = some b.next := by
  intro ran drained
  obtain ⟨ls, hls, hbytes, hlines⟩ := run_eq cs {}
  obtain ⟨ms, t, hms, ht, hpending⟩ := exists_write ran.2.pending
  have hdrained : drained = (ms.filterMap content?, ⟨t⟩) := by
    have h : ran.2 = ⟨write ms ++ t⟩ := congrArg LineBuffer.mk hpending
    rw [← drain_write hms ht, ← h]
  have hall : ∀ l ∈ ls ++ ms, newline ∉ l := List.forall_mem_append.2 ⟨hls, hms⟩
  have hpushed : pushed cs = write (ls ++ ms) ++ t := by
    rw [write_append, List.append_assoc, ← hpending]
    exact hbytes
  have hreturned : ran.1 ++ drained.1 = (ls ++ ms).filterMap content? := by
    rw [hdrained, List.filterMap_append, ← hlines]
  have htail : drained.2 = ⟨t⟩ := congrArg Prod.snd hdrained
  refine ⟨?_, ?_, ?_, ?_, ?_, ?_⟩
  · rw [hreturned, hpushed, contents_write hall ht]
  · intro line hline
    rw [hreturned] at hline
    obtain ⟨l, hl, hc⟩ := List.mem_filterMap.1 hline
    exact of_content? hc (hall l hl)
  · rw [htail, next, take_of_not_mem ht]
  · rw [hpushed, splitOn_write hall ht, List.getLast?_concat, htail]
  · rw [htail, hpushed, ← tail_ne_nil_iff _ ht]
    simp [hasRemainder]
  · intro b
    rw [nextAt?, takeAt?_eq (Nat.lt_succ_self _)]
    rfl

/-- Two lines and a tail; the end of the first line comes in two chunks, and a blank line stands behind it. -/
def splitReturn : List Call :=
  [.push [97, 13], .next, .push [10, 13, 10, 98], .next, .next, .push [], .push [99, 10, 10, 100]]

theorem splitReturn_drain :
    let ran := run {} splitReturn
    let drained := ran.2.drain
    ran.1 ++ drained.1 = [[97], [98, 99]] ∧ (∀ line ∈ ran.1 ++ drained.1, line ≠ [] ∧ newline ∉ line) ∧
    drained.2.pending = [100] ∧ drained.2.hasRemainder ∧ ran.2.nextAt? = some ran.2.next := by
  obtain ⟨hlines, hall, -, htail, hremainder, hnext⟩ := run_drain splitReturn
  have hcontents : contents (pushed splitReturn) = [[97], [98, 99]] := by decide
  have hlast : ((pushed splitReturn).splitOn newline).getLast? = some [100] := by decide
  refine ⟨hlines.trans hcontents, hall, ?_, hremainder.2 (by decide), hnext _⟩
  rw [hlast] at htail
  exact (Option.some.inj htail).symm

end LineBuffer
end EventTally
