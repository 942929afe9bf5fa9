import ResourceOperator.Proofs.Dialogue

/-!
# Dialogues in step

Two dialogues are in step if they ask the same questions for as long as the answers are alike, and
end in values that are related. What is alike depends on the question: of some answers a part does
not count, and two dialogues that are in step make no use of that part but in the values in which
they end.

Results:
* `Lockstep.bind`, `Lockstep.forward`: dialogues in step stay so when others follow, and when their
  questions are answered by dialogues in step.
* `Lockstep.refl`: a dialogue is in step with itself, where only equal answers are alike.
* `Lockstep.run`: dialogues in step come to related values where functions answer them alike.
* `Lockstep.matched`: where equal answers are alike, a run of the one comes with a run of the other
  that is answered the same.
-/

namespace ResourceOperator.Dialogue

variable {I J : Interface} {α β γ δ : Type}

/-- Which answers to a question are alike. -/
abbrev Likeness (I : Interface) := (q : I.Question) → I.Answer q → I.Answer q → Prop

/-- Two dialogues ask the same questions for as long as they are answered alike, and end in related
values. -/
inductive Lockstep (alike : Likeness I) (post : α → β → Prop) :
    Dialogue I α → Dialogue I β → Prop where
  | done {a : α} {b : β} (h : post a b) : Lockstep alike post (done a) (done b)
  | ask (q : I.Question) {next : I.Answer q → Dialogue I α} {next' : I.Answer q → Dialogue I β}
      (h : ∀ answer answer', alike q answer answer' →
        Lockstep alike post (next answer) (next' answer')) :
      Lockstep alike post (ask q next) (ask q next')

namespace Lockstep

variable {alike : Likeness I} {post : α → β → Prop} {d : Dialogue I α} {d' : Dialogue I β}

/-- The answers to one question are alike. -/
theorem call (q : I.Question) :
    Lockstep alike (alike q) (Dialogue.call q) (Dialogue.call q) :=
  .ask q fun _ _ h => .done h

/-- What follows dialogues in step is in step if it is from related values on. -/
theorem bind {late : γ → δ → Prop} {f : α → Dialogue I γ} {f' : β → Dialogue I δ}
    (h : Lockstep alike post d d') (hf : ∀ a b, post a b → Lockstep alike late (f a) (f' b)) :
    Lockstep alike late (d.bind f) (d'.bind f') := by
  induction h with
  | done hpost => exact hf _ _ hpost
  | ask q _ ih => exact .ask q ih

/-- Questions that are answered by dialogues in step. -/
theorem forward {outer : Likeness J} {handler : (q : I.Question) → Dialogue J (I.Answer q)}
    {handler' : (q : I.Question) → Dialogue J (I.Answer q)} (h : Lockstep alike post d d')
    (hh : ∀ q, Lockstep outer (alike q) (handler q) (handler' q)) :
    Lockstep outer post (d.forward handler) (d'.forward handler') := by
  induction h with
  | done hpost => exact .done hpost
  | ask q _ ih => exact (hh q).bind ih

/-- Where only equal answers are alike, a dialogue is in step with itself. -/
theorem refl (halike : ∀ q answer answer', alike q answer answer' → answer = answer')
    (d : Dialogue I α) : Lockstep alike Eq d d := by
  induction d with
  | done a => exact .done rfl
  | ask q next ih =>
    refine .ask q fun answer answer' h => ?_
    obtain rfl := halike q answer answer' h
    exact ih answer

/-- Dialogues in step that functions answer alike. -/
theorem run {answers answers' : (q : I.Question) → I.Answer q} (h : Lockstep alike post d d')
    (halike : ∀ q, alike q (answers q) (answers' q)) :
    post (d.run answers) (d'.run answers') := by
  induction h with
  | done hpost => exact hpost
  | ask q _ ih => exact ih _ _ (halike q)

/-- A run of the one dialogue, and one of the other that is answered the same. -/
theorem matched (halike : ∀ q answer, alike q answer answer) (h : Lockstep alike post d d')
    {log : List (Exchange I)} {a : α} (run : Run d log a) : ∃ b, Run d' log b ∧ post a b := by
  induction h generalizing log with
  | @done a b hpost =>
    obtain ⟨rfl, rfl⟩ := run_done_iff.mp run
    exact ⟨b, .done b, hpost⟩
  | ask q _ ih =>
    obtain ⟨answer, rest, hrest, rfl⟩ := run_ask_iff.mp run
    obtain ⟨b, hb, hpost⟩ := ih answer answer (halike q answer) hrest
    exact ⟨b, .ask q answer hb, hpost⟩

end Lockstep

end ResourceOperator.Dialogue
