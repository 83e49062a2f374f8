import EventTally.Dialogue
import Mathlib

/-! What dialogues give. Answering a dialogue goes through its parts in turn, so its result, the questions
that it asks and the state that is left are those of the parts; `Always` says what holds of the result
whatever the answers are, and `Only` of the questions. A computation that may fail succeeds if each of its
parts does. -/

namespace EventTally

/-! ## Results -/

section

variable {ε α β : Type}

theorem bind_eq_ok {x : Except ε α} {f : α → Except ε β} {b : β} :
    (x >>= f) = .ok b ↔ ∃ a, x = .ok a ∧ f a = .ok b := by
  cases x <;> simp [bind, Except.bind]

theorem pure_eq_ok {a b : α} : (pure a : Except ε α) = .ok b ↔ a = b := by
  simp [pure, Except.pure]

/-- A check in front of a computation. -/
theorem guard_eq_ok {p : Prop} [Decidable p] {e : ε} {next : PUnit → Except ε α} {a : α} :
    (if p then throw e >>= next else next ()) = .ok a ↔ ¬ p ∧ next () = .ok a := by
  by_cases hp : p
  · simp [hp, throw, throwThe, MonadExceptOf.throw, bind, Except.bind]
  · simp [hp]

theorem map_eq_ok {x : Except ε α} {f : α → β} {b : β} :
    x.map f = .ok b ↔ ∃ a, x = .ok a ∧ f a = b := by
  cases x <;> simp [Except.map]

theorem map_eq_error {x : Except ε α} {f : α → β} {e : ε} : x.map f = .error e ↔ x = .error e := by
  cases x <;> simp [Except.map]

theorem mapError_eq_error {ε' : Type} {x : Except ε α} {f : ε → ε'} {e : ε'} :
    x.mapError f = .error e ↔ ∃ e', x = .error e' ∧ f e' = e := by
  cases x <;> simp [Except.mapError]

end

namespace Dialogue

variable {Q A Q' A' α β σ : Type}

/-! ## One dialogue after the other -/

protected theorem id_map (d : Dialogue Q A α) : id <$> d = d := by
  induction d with
  | done a => rfl
  | ask q next ih => exact congrArg (ask q) (funext ih)

protected theorem bind_assoc {γ : Type} (d : Dialogue Q A α) (f : α → Dialogue Q A β)
    (g : β → Dialogue Q A γ) :
    d >>= f >>= g = d >>= fun a => f a >>= g := by
  induction d with
  | done a => rfl
  | ask q next ih => exact congrArg (ask q) (funext ih)

instance : LawfulMonad (Dialogue Q A) := .mk' _ Dialogue.id_map (fun _ _ => rfl) Dialogue.bind_assoc

@[simp] theorem runState_pure (answer : Q → σ → A × σ) (a : α) (s : σ) :
    (pure a : Dialogue Q A α).runState answer s = (a, s) := rfl

theorem runState_bind (answer : Q → σ → A × σ) (d : Dialogue Q A α) (f : α → Dialogue Q A β) (s : σ) :
    (d >>= f).runState answer s =
      (f (d.runState answer s).1).runState answer (d.runState answer s).2 := by
  induction d generalizing s with
  | done a => rfl
  | ask q next ih => exact ih _ _

@[simp] theorem run_pure (known : Q → A) (a : α) : (pure a : Dialogue Q A α).run known = a := rfl

@[simp] theorem questions_pure (known : Q → A) (a : α) :
    (pure a : Dialogue Q A α).questions known = [] := rfl

theorem run_bind (known : Q → A) (d : Dialogue Q A α) (f : α → Dialogue Q A β) :
    (d >>= f).run known = (f (d.run known)).run known := by
  induction d with
  | done a => rfl
  | ask q next ih => exact ih _

/-- Each question gets what the dialogue gives that it is turned into. -/
theorem run_through (answer : Q' → A') (d : Dialogue Q A α) (inner : Q → Dialogue Q' A' A) :
    (d.through inner).run answer = d.run fun q => (inner q).run answer := by
  induction d with
  | done a => rfl
  | ask q next ih =>
    change (inner q >>= fun reply => (next reply).through inner).run answer = _
    rw [run_bind, ih]
    rfl

theorem questions_bind (known : Q → A) (d : Dialogue Q A α) (f : α → Dialogue Q A β) :
    (d >>= f).questions known = d.questions known ++ (f (d.run known)).questions known := by
  induction d with
  | done a => rfl
  | ask q next ih => exact congrArg (q :: ·) (ih _)

/-- Answers that also keep the questions, in order. -/
def recorded (answer : Q → σ → A × σ) (q : Q) (s : σ × List Q) : A × (σ × List Q) :=
  ((answer q s.1).1, (answer q s.1).2, s.2 ++ [q])

/-! ## Any answers -/

/-- The result has the property, whatever the answers are. -/
def Always (p : α → Prop) : Dialogue Q A α → Prop
  | done a => p a
  | ask _ next => ∀ answer, (next answer).Always p

section

variable {p : α → Prop} {p' : β → Prop}

theorem Always.of_forall {d : Dialogue Q A α} (h : ∀ a, p a) : d.Always p := by
  induction d with
  | done a => exact h a
  | ask q next ih => exact ih

theorem Always.bind {d : Dialogue Q A α} {f : α → Dialogue Q A β} (hd : d.Always p)
    (hf : ∀ a, p a → (f a).Always p') : (d >>= f).Always p' := by
  induction d with
  | done a => exact hf a hd
  | ask q next ih => exact fun answer => ih answer (hd answer)

/-- If a step fails, that is the result of all. -/
theorem Always.except_bind {ε : Type} {x : ExceptT ε (Dialogue Q A) α} {f : α → ExceptT ε (Dialogue Q A) β}
    (hx : x.run.Always fun found => ∀ a, found = .ok a → p a)
    (hf : ∀ a, p a → (f a).run.Always fun found => ∀ b, found = .ok b → p' b) :
    (x >>= f).run.Always fun found => ∀ b, found = .ok b → p' b := by
  refine Always.bind hx fun found h => ?_
  cases found with
  | error e =>
    intro b hb
    cases hb
  | ok a => exact hf a (h a rfl)

theorem Always.runState {d : Dialogue Q A α} (hd : d.Always p) (answer : Q → σ → A × σ) (s : σ) :
    p (d.runState answer s).1 := by
  induction d generalizing s with
  | done a => exact hd
  | ask q next ih => exact ih _ (hd _) _

theorem Always.run {d : Dialogue Q A α} (hd : d.Always p) (known : Q → A) : p (d.run known) := by
  induction d with
  | done a => exact hd
  | ask q next ih => exact ih _ (hd _)

end

/-! ## Questions -/

/-- Whatever the answers are, no other questions are asked. -/
def Only (p : Q → Prop) : Dialogue Q A α → Prop
  | done _ => True
  | ask q next => p q ∧ ∀ answer, (next answer).Only p

section

variable {p : Q → Prop} {p' : Q' → Prop}

theorem Only.imp {q : Q → Prop} {d : Dialogue Q A α} (hd : d.Only p) (h : ∀ a, p a → q a) : d.Only q := by
  induction d with
  | done a => trivial
  | ask a next ih => exact ⟨h a hd.1, fun answer => ih answer (hd.2 answer)⟩

theorem Only.bind {d : Dialogue Q A α} {f : α → Dialogue Q A β} (hd : d.Only p)
    (hf : ∀ a, (f a).Only p) : (d >>= f).Only p := by
  induction d with
  | done a => exact hf a
  | ask q next ih => exact ⟨hd.1, fun answer => ih answer (hd.2 answer)⟩

theorem Only.through {d : Dialogue Q A α} {inner : Q → Dialogue Q' A' A} (hd : d.Only p)
    (hi : ∀ q, p q → (inner q).Only p') : (d.through inner).Only p' := by
  induction d with
  | done a => trivial
  | ask q next ih => exact (hi q hd.1).bind fun answer => ih answer (hd.2 answer)

/-- Answers that are the same for all questions that are asked give the same. -/
theorem Only.run_congr {d : Dialogue Q A α} {known known' : Q → A} (hd : d.Only p)
    (h : ∀ q, p q → known q = known' q) : d.run known = d.run known' := by
  induction d with
  | done a => rfl
  | ask q next ih =>
    rw [run, run, ← h q hd.1]
    exact ih _ (hd.2 _)

/-- If each question is turned into one other question, and gets the answer that is known, the dialogue has
its result, and the other questions are asked in its order. -/
theorem runState_through {d : Dialogue Q A α} {inner : Q → Dialogue Q' A' A} {answer : Q' → σ → A' × σ}
    {known : Q → A} {turned : Q → Q' → Prop} (hd : d.Only p)
    (h : ∀ q, p q → ∀ s log, ∃ s' q', turned q q' ∧
      (inner q).runState (recorded answer) (s, log) = (known q, s', log ++ [q'])) (s : σ) (log : List Q') :
    ∃ s' asked, List.Forall₂ turned (d.questions known) asked ∧
      (d.through inner).runState (recorded answer) (s, log) = (d.run known, s', log ++ asked) := by
  induction d generalizing s log with
  | done a => exact ⟨s, [], .nil, by rw [List.append_nil]; rfl⟩
  | ask q next ih =>
    obtain ⟨hq, hnext⟩ := hd
    obtain ⟨s₁, q', hturned, hfirst⟩ := h q hq s log
    obtain ⟨s₂, asked, hasked, hrest⟩ := ih (known q) (hnext (known q)) s₁ (log ++ [q'])
    refine ⟨s₂, q' :: asked, .cons hturned hasked, ?_⟩
    change (inner q >>= fun answer => (next answer).through inner).runState _ _ = _
    rw [runState_bind, hfirst, hrest, List.append_assoc]
    rfl

end

end Dialogue
end EventTally
