/-!
Computations that ask questions one at a time. Whoever answers them may do anything between two
questions, so a statement about every run of a dialogue covers every interleaving with others.
-/

namespace ModelVault

/-- A result, or a question and what to do with each of its replies. -/
inductive Dialogue (Question : Type) (Reply : Question → Type) (α : Type) where
  | done (result : α)
  | ask (question : Question) (next : Reply question → Dialogue Question Reply α)

namespace Dialogue

variable {Question : Type} {Reply : Question → Type} {α β σ : Type}

/-- Go on with the result of a dialogue. -/
protected def bind (dialogue : Dialogue Question Reply α) (next : α → Dialogue Question Reply β) :
    Dialogue Question Reply β :=
  match dialogue with
  | done result => next result
  | ask question answered => ask question fun reply => (answered reply).bind next

instance : Monad (Dialogue Question Reply) where
  pure := done
  bind := Dialogue.bind

/-- The dialogue that asks one question and ends with its reply. -/
def question (question : Question) : Dialogue Question Reply (Reply question) :=
  ask question done

/-- Ask other questions in the place of each question. -/
def through {Question' : Type} {Reply' : Question' → Type}
    (instead : (question : Question) → Dialogue Question' Reply' (Reply question)) :
    Dialogue Question Reply α → Dialogue Question' Reply' α
  | done result => .done result
  | ask question next => (instead question).bind fun reply => (next reply).through instead

/-- Let a stateful party answer every question, with nobody else in between. -/
def run (answer : (question : Question) → σ → Reply question × σ) :
    Dialogue Question Reply α → σ → α × σ
  | done result, state => (result, state)
  | ask question next, state =>
    let (reply, state) := answer question state
    (next reply).run answer state

/-- Let a party answer that may leave a question unanswered, which ends the dialogue without result. -/
def run? (answer : (question : Question) → σ → Option (Reply question) × σ) :
    Dialogue Question Reply α → σ → Option α × σ
  | done result, state => (some result, state)
  | ask question next, state =>
    match answer question state with
    | (some reply, state) => (next reply).run? answer state
    | (none, state) => (none, state)

@[simp] theorem run_done (answer : (question : Question) → σ → Reply question × σ) (result : α)
    (state : σ) : (done result : Dialogue Question Reply α).run answer state = (result, state) := rfl

@[simp] theorem run_ask (answer : (question : Question) → σ → Reply question × σ)
    (question : Question) (next : Reply question → Dialogue Question Reply α) (state : σ) :
    (ask question next).run answer state =
      (next (answer question state).1).run answer (answer question state).2 := rfl

theorem run_bind (answer : (question : Question) → σ → Reply question × σ)
    (dialogue : Dialogue Question Reply α) (next : α → Dialogue Question Reply β) (state : σ) :
    (dialogue.bind next).run answer state =
      (next (dialogue.run answer state).1).run answer (dialogue.run answer state).2 := by
  induction dialogue generalizing state with
  | done result => rfl
  | ask question answered ih =>
    simp only [Dialogue.bind, run_ask]
    exact ih _ _

end Dialogue

end ModelVault
