import EventTally.Regex.Pattern

/-! Patterns as programs of a machine that tries the alternatives of a split in order. Code is laid
out from the end of a pattern to its start, so each instruction is given the place to go on at. -/

namespace EventTally.Regex

inductive Instr where
  | chars (s : CharSet) (next : Nat)
  | look (l : Look) (next : Nat)
  /-- Notes the position as a start or a stop of a group. -/
  | save (slot : Nat) (next : Nat)
  | split (first second : Nat)
  | done
  deriving Inhabited

abbrev Code := Array Instr

/-- Adds an instruction and tells its place. -/
def Code.add (code : Code) (i : Instr) : Code × Nat :=
  let place := code.size
  (code.push i, place)

def Instr.choose (greedy : Bool) (enter leave : Nat) : Instr :=
  if greedy then .split enter leave else .split leave enter

/-- Lays out a body as often as told, each time before the rest. -/
def copies (body : Code → Nat → Code × Nat) (code : Code) (next : Nat) : Nat → Code × Nat
  | 0 => (code, next)
  | n + 1 =>
    let (code, start) := body code next
    copies body code start n

/-- Lays out a body that leads back to a split, which is put in place once its start is known. -/
def loop (body : Code → Nat → Code × Nat) (greedy : Bool) (code : Code) (next : Nat) :
    Code × Nat × Nat :=
  let (code, hold) := code.add .done
  let (code, start) := body code hold
  (code.setIfInBounds hold (.choose greedy start next), hold, start)

/-- Adds the code of a pattern before the instruction to go on at; the place is where it starts. -/
def Pattern.lay : Pattern → Code → Nat → Code × Nat
  | .empty, code, next => (code, next)
  | .chars s, code, next => code.add (.chars s next)
  | .look l, code, next => code.add (.look l next)
  | .group index p, code, next =>
    let (code, stop) := code.add (.save (2 * index + 1) next)
    let (code, start) := p.lay code stop
    code.add (.save (2 * index) start)
  | .seq p q, code, next =>
    let (code, middle) := q.lay code next
    p.lay code middle
  | .alt p q, code, next =>
    let (code, second) := q.lay code next
    let (code, first) := p.lay code next
    code.add (.split first second)
  | .repeat 0 none greedy p, code, next =>
    let (code, hold, start) := loop p.lay greedy code next
    if p.nullable then code.add (.choose greedy start next) else (code, hold)
  | .repeat (n + 1) none greedy p, code, next =>
    let (code, _, start) := loop p.lay greedy code next
    copies p.lay code start n
  | .repeat min (some max) greedy p, code, next =>
    let option (code : Code) (inner : Nat) :=
      let (code, start) := p.lay code inner
      code.add (.choose greedy start next)
    let (code, start) := copies option code next (max - min)
    copies p.lay code start min

structure Program where
  code : Code
  start : Nat
  /-- The number of groups, the whole match not counted. -/
  groups : Nat

def Program.ofPattern (p : Pattern) : Program :=
  let (code, start) := p.lay #[.done] 0
  ⟨code, start, p.groups⟩

end EventTally.Regex
