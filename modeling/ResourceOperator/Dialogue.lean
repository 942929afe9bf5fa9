/-!
# Computations that ask questions

A `Dialogue I α` is a computation that asks questions of an interface `I` and ends with a value.
What it does is plain data, so that statements can range over every way its questions may be
answered.

* `runM` answers the questions in a monad, `run` by a function; `forward` answers them by asking
  questions of another interface.
* `Run d log a` says that `d` ends with `a` after the exchanges of `log`.
* `run_bind` and `Run.bind` say how `run` and `Run` act on two computations in sequence.
-/

namespace ResourceOperator

/-- Questions, each with a type of answers. -/
structure Interface where
  Question : Type
  Answer : Question → Type

/-- A computation that asks questions and ends with a value. -/
inductive Dialogue (I : Interface) (α : Type) : Type where
  | done (value : α)
  | ask (question : I.Question) (next : I.Answer question → Dialogue I α)

namespace Dialogue

variable {I J : Interface} {α β : Type}

/-- Goes on with another computation. -/
def bind : Dialogue I α → (α → Dialogue I β) → Dialogue I β
  | done a, f => f a
  | ask q next, f => ask q fun answer => (next answer).bind f

instance : Monad (Dialogue I) where
  pure := done
  bind := bind

/-- Asks one question. -/
def call (question : I.Question) : Dialogue I (I.Answer question) :=
  ask question done

/-- Answers the questions in a monad. -/
def runM {m : Type → Type} [Monad m] (handler : (q : I.Question) → m (I.Answer q)) :
    Dialogue I α → m α
  | done a => pure a
  | ask q next => handler q >>= fun answer => (next answer).runM handler

/-- Answers the questions by a function. -/
def run (handler : (q : I.Question) → I.Answer q) : Dialogue I α → α
  | done a => a
  | ask q next => (next (handler q)).run handler

/-- Answers the questions by asking questions of another interface. -/
def forward (handler : (q : I.Question) → Dialogue J (I.Answer q)) : Dialogue I α → Dialogue J α
  | done a => done a
  | ask q next => (handler q).bind fun answer => (next answer).forward handler

/-- A question with its answer. -/
structure Exchange (I : Interface) where
  question : I.Question
  answer : I.Answer question

/-- A dialogue ends with a value after these exchanges. -/
inductive Run : Dialogue I α → List (Exchange I) → α → Prop where
  | done (a : α) : Run (.done a) [] a
  | ask (q : I.Question) (answer : I.Answer q) {next : I.Answer q → Dialogue I α}
      {log : List (Exchange I)} {a : α} (rest : Run (next answer) log a) :
      Run (.ask q next) (⟨q, answer⟩ :: log) a

@[simp] theorem pure_eq (a : α) : (pure a : Dialogue I α) = done a := rfl

@[simp] theorem bind_eq (d : Dialogue I α) (f : α → Dialogue I β) : (d >>= f) = d.bind f := rfl

@[simp] theorem done_bind (a : α) (f : α → Dialogue I β) : (done a).bind f = f a := rfl

@[simp] theorem ask_bind (q : I.Question) (next : I.Answer q → Dialogue I α)
    (f : α → Dialogue I β) : (ask q next).bind f = ask q fun answer => (next answer).bind f := rfl

@[simp] theorem call_bind (q : I.Question) (f : I.Answer q → Dialogue I β) :
    (call q).bind f = ask q f := rfl

@[simp] theorem bind_done (d : Dialogue I α) : d.bind done = d := by
  induction d with
  | done a => rfl
  | ask q next ih => simp [ih]

theorem bind_assoc {γ : Type} (d : Dialogue I α) (f : α → Dialogue I β) (g : β → Dialogue I γ) :
    (d.bind f).bind g = d.bind fun a => (f a).bind g := by
  induction d with
  | done a => rfl
  | ask q next ih => simp [ih]

/-- Running two computations in sequence runs the second on the value of the first. -/
theorem run_bind (handler : (q : I.Question) → I.Answer q) (d : Dialogue I α)
    (f : α → Dialogue I β) : (d.bind f).run handler = (f (d.run handler)).run handler := by
  induction d with
  | done a => rfl
  | ask q next ih => simp [run, ih]

/-- A run of two computations in sequence is a run of the first and then one of the second. -/
theorem Run.bind {d : Dialogue I α} {f : α → Dialogue I β} {log : List (Exchange I)} {b : β} :
    Run (d.bind f) log b ↔ ∃ log₁ log₂ a, Run d log₁ a ∧ Run (f a) log₂ b ∧ log = log₁ ++ log₂ := by
  induction d generalizing log with
  | done a =>
    constructor
    · intro h; exact ⟨[], log, a, .done a, h, rfl⟩
    · rintro ⟨log₁, log₂, a', h₁, h₂, rfl⟩
      cases h₁
      exact h₂
  | ask q next ih =>
    constructor
    · intro h
      cases h with
      | ask _ answer rest =>
        obtain ⟨log₁, log₂, a, h₁, h₂, rfl⟩ := (ih answer).1 rest
        exact ⟨_, log₂, a, .ask q answer h₁, h₂, rfl⟩
    · rintro ⟨log₁, log₂, a, h₁, h₂, rfl⟩
      cases h₁ with
      | ask _ answer rest => exact .ask q answer ((ih answer).2 ⟨_, log₂, a, rest, h₂, rfl⟩)

end Dialogue

end ResourceOperator
