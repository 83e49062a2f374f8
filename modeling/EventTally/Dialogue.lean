/-! Computations that ask for something outside and go on with the answer. What they do is fixed
once it is fixed how questions are answered. -/

namespace EventTally

inductive Dialogue (Q A α : Type) where
  | done (a : α)
  | ask (q : Q) (next : A → Dialogue Q A α)

namespace Dialogue

variable {Q A Q' A' α β σ : Type}

def bind : Dialogue Q A α → (α → Dialogue Q A β) → Dialogue Q A β
  | done a, f => f a
  | ask q next, f => ask q fun answer => bind (next answer) f

instance : Monad (Dialogue Q A) where
  pure := done
  bind := bind

def question (q : Q) : Dialogue Q A A := ask q done

/-- Answers the questions in turn, from a state that each answer may change. -/
def runState (answer : Q → σ → A × σ) : Dialogue Q A α → σ → α × σ
  | done a, s => (a, s)
  | ask q next, s =>
    let (reply, s) := answer q s
    runState answer (next reply) s

/-- The result when a question always gets the same answer. -/
def run (answer : Q → A) : Dialogue Q A α → α
  | done a => a
  | ask q next => run answer (next (answer q))

/-- The questions that are then asked, in order. -/
def questions (answer : Q → A) : Dialogue Q A α → List Q
  | done _ => []
  | ask q next => q :: questions answer (next (answer q))

/-- Turns each question into a dialogue of other questions. -/
def through (inner : Q → Dialogue Q' A' A) : Dialogue Q A α → Dialogue Q' A' α
  | done a => done a
  | ask q next => bind (inner q) fun answer => through inner (next answer)

end Dialogue
end EventTally
