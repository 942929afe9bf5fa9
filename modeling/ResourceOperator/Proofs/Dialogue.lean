import ResourceOperator.Dialogue

/-!
# What a dialogue ensures, whatever it is answered

A `Rule` says of each question what asking it demands of a state and what it leads to. `Ensures`
carries a postcondition backwards through a dialogue by such a rule. Three rules matter. `watch`
keeps the exchanges so far as its state, demands that each question is allowed after them, and
admits every answer. `asking` keeps nothing, and admits the answers of a certain kind only.
`Rule.through` puts a dialogue with another interface in the place of each question.

Results:
* `ensures_bind`, `ensures_forward`: sequencing and interpretation are sequencing of postconditions
  and `Rule.through`, for every rule.
* `Run.allowed_of_ensures`, `Run.post_of_ensures`: what `watch` ensures holds of every run. Each
  question of its log is allowed after the exchanges before it, and the end meets the postcondition.
* `Run.of_asking`: the same of `asking`, for runs whose answers are admitted.
* `run_done_iff`, `run_ask_iff`: what the runs of each constructor are.
* `Run.unique`, `Run.eq_or_parted`: two runs of a dialogue are told apart by an answer.
* `run_bind_except`: what the runs of two computations in sequence are, where the first may fail.
* `run_forward_iff`: what the runs of a dialogue are whose questions others answer.
* `exists_run`, `Run.eq_run`: a run that is answered by a function exists, and ends as the function
  has it.
-/

namespace ResourceOperator.Dialogue

variable {I J : Interface} {σ α β : Type}

/-- What asking a question demands of a state, for a postcondition on the state after it and the
answer. -/
abbrev Rule (I : Interface) (σ : Type) :=
  (q : I.Question) → (σ → I.Answer q → Prop) → σ → Prop

/-- Every way through the dialogue obeys the rule and ends in the postcondition. -/
def Ensures (rule : Rule I σ) (post : σ → α → Prop) : Dialogue I α → σ → Prop
  | done a, s => post s a
  | ask q next, s => rule q (fun s answer => (next answer).Ensures rule post s) s

/-- The rule that each question obeys when a dialogue with another interface answers it. -/
def Rule.through (rule : Rule J σ) (handler : (q : I.Question) → Dialogue J (I.Answer q)) :
    Rule I σ :=
  fun q post s => (handler q).Ensures rule post s

/-- The rule that allows a question after certain exchanges, and admits every answer. -/
def watch (allowed : List (Exchange I) → I.Question → Prop) : Rule I (List (Exchange I)) :=
  fun q post past => allowed past q ∧ ∀ answer, post (past ++ [⟨q, answer⟩]) answer

/-- The rule that keeps nothing of the past: it allows certain questions, and counts on every answer
being among those that are admitted. -/
def asking (allowed : I.Question → Prop) (admitted : Exchange I → Prop) : Rule I Unit :=
  fun q post s => allowed q ∧ ∀ answer, admitted ⟨q, answer⟩ → post s answer

/-! ## Calculation -/

@[simp] theorem ensures_done {rule : Rule I σ} {post : σ → α → Prop} {a : α} {s : σ} :
    (done a : Dialogue I α).Ensures rule post s ↔ post s a := Iff.rfl

@[simp] theorem ensures_ask {rule : Rule I σ} {post : σ → α → Prop} {q : I.Question}
    {next : I.Answer q → Dialogue I α} {s : σ} :
    (ask q next).Ensures rule post s ↔
      rule q (fun s answer => (next answer).Ensures rule post s) s := Iff.rfl

@[simp] theorem ensures_bind {rule : Rule I σ} {post : σ → β → Prop} (d : Dialogue I α)
    (f : α → Dialogue I β) {s : σ} :
    (d.bind f).Ensures rule post s ↔ d.Ensures rule (fun s a => (f a).Ensures rule post s) s := by
  suffices h : (d.bind f).Ensures rule post =
      d.Ensures rule fun s a => (f a).Ensures rule post s from iff_of_eq (congrFun h s)
  induction d with
  | done a => rfl
  | ask q next ih =>
    funext s
    show rule q (fun s answer => ((next answer).bind f).Ensures rule post s) s = _
    simp only [ih]
    rfl

@[simp] theorem ensures_forward {rule : Rule J σ} {post : σ → α → Prop}
    (handler : (q : I.Question) → Dialogue J (I.Answer q)) (d : Dialogue I α) {s : σ} :
    (d.forward handler).Ensures rule post s ↔ d.Ensures (rule.through handler) post s := by
  suffices h : (d.forward handler).Ensures rule post = d.Ensures (rule.through handler) post from
    iff_of_eq (congrFun h s)
  induction d with
  | done a => rfl
  | ask q next ih =>
    funext s
    apply propext
    show ((handler q).bind fun answer => (next answer).forward handler).Ensures rule post s ↔ _
    rw [ensures_bind]
    simp only [ih]
    rfl

/-! ## Weakening -/

/-- The postcondition that any end meets. -/
def anyEnd (_ : σ) (_ : α) : Prop := True

/-- A weaker postcondition demands less. -/
def Rule.Monotone (rule : Rule I σ) : Prop :=
  ∀ q {post weaker : σ → I.Answer q → Prop}, (∀ s a, post s a → weaker s a) →
    ∀ s, rule q post s → rule q weaker s

theorem Ensures.mono {rule : Rule I σ} (hr : rule.Monotone) {post weaker : σ → α → Prop}
    (h : ∀ s a, post s a → weaker s a) {d : Dialogue I α} :
    ∀ {s : σ}, d.Ensures rule post s → d.Ensures rule weaker s := by
  induction d with
  | done a => exact fun {s} hp => h s a hp
  | ask q next ih => exact fun {s} hp => hr q (fun _ a ha => ih a ha) s hp

/-- A postcondition that every end meets adds nothing. -/
theorem Ensures.of_anyEnd {rule : Rule I σ} (hr : rule.Monotone) {post : σ → α → Prop}
    {d : Dialogue I α} {s : σ} (hd : d.Ensures rule anyEnd s) (h : ∀ s a, post s a) :
    d.Ensures rule post s :=
  hd.mono hr fun s a _ => h s a

/-- A rule that admits every question is obeyed by every dialogue. -/
theorem ensures_anyEnd {rule : Rule I σ}
    (h : ∀ q s {post : σ → I.Answer q → Prop}, (∀ s a, post s a) → rule q post s)
    (d : Dialogue I α) : ∀ s, d.Ensures rule anyEnd s := by
  induction d with
  | done a => exact fun _ => trivial
  | ask q next ih => exact fun s => h q s fun s answer => ih answer s

theorem monotone_watch (allowed : List (Exchange I) → I.Question → Prop) :
    (watch allowed).Monotone :=
  fun _ _ _ h _ hp => ⟨hp.1, fun answer => h _ _ (hp.2 answer)⟩

theorem monotone_asking (allowed : I.Question → Prop) (admitted : Exchange I → Prop) :
    (asking allowed admitted).Monotone :=
  fun _ _ _ h _ hp => ⟨hp.1, fun answer ha => h _ _ (hp.2 answer ha)⟩

theorem Rule.Monotone.through {rule : Rule J σ} (hr : rule.Monotone)
    (handler : (q : I.Question) → Dialogue J (I.Answer q)) : (rule.through handler).Monotone :=
  fun _ _ _ h _ hp => Ensures.mono hr h hp

/-- Where every question has a property, so has every question of the exchanges. -/
theorem Ensures.with_questions {p : I.Question → Prop} {post : List (Exchange I) → α → Prop}
    {d : Dialogue I α} : ∀ {past : List (Exchange I)}, d.Ensures (watch fun _ => p) post past →
      (∀ x ∈ past, p x.question) →
      d.Ensures (watch fun _ => p) (fun past a => (∀ x ∈ past, p x.question) ∧ post past a)
        past := by
  induction d with
  | done a => exact fun h hp => ⟨hp, h⟩
  | ask q next ih =>
    intro past h hp
    refine ⟨h.1, fun answer => ih answer (h.2 answer) fun x hx => ?_⟩
    rcases List.mem_append.mp hx with hx | hx
    · exact hp x hx
    · rw [List.mem_singleton.mp hx]
      exact h.1

/-! ## Every run -/

theorem run_done_iff {a b : α} {log : List (Exchange I)} :
    Run (done a) log b ↔ log = [] ∧ b = a := by
  constructor
  · intro h
    cases h
    exact ⟨rfl, rfl⟩
  · rintro ⟨rfl, rfl⟩
    exact .done _

theorem run_ask_iff {q : I.Question} {next : I.Answer q → Dialogue I α} {log : List (Exchange I)}
    {a : α} :
    Run (ask q next) log a ↔ ∃ answer rest, Run (next answer) rest a ∧ log = ⟨q, answer⟩ :: rest := by
  constructor
  · intro h
    cases h with
    | ask _ answer rest => exact ⟨answer, _, rest, rfl⟩
  · rintro ⟨answer, rest, h, rfl⟩
    exact .ask q answer h

/-- Two runs of a dialogue that are answered alike end alike. -/
theorem Run.unique {d : Dialogue I α} {first second after after' : List (Exchange I)} {a b : α}
    (run : Run d first a) (other : Run d second b) (e : first ++ after = second ++ after') :
    first = second ∧ a = b := by
  induction run generalizing second with
  | done a =>
    cases other
    exact ⟨rfl, rfl⟩
  | ask q answer _ ih =>
    obtain ⟨answer', rest, hrest, rfl⟩ := run_ask_iff.mp other
    obtain ⟨hx, htail⟩ := List.cons.inj e
    cases hx
    obtain ⟨rfl, rfl⟩ := ih hrest htail
    exact ⟨rfl, rfl⟩

/-- Two runs of a dialogue are the same, up to a question that they are answered differently. -/
theorem Run.eq_or_parted {d : Dialogue I α} {log log' : List (Exchange I)} {a b : α}
    (run : Run d log a) (other : Run d log' b) :
    (log' = log ∧ b = a) ∨ ∃ before q answer answer' after after',
      log = before ++ ⟨q, answer⟩ :: after ∧ log' = before ++ ⟨q, answer'⟩ :: after' ∧
        answer' ≠ answer := by
  induction run generalizing log' with
  | done a =>
    obtain ⟨rfl, rfl⟩ := run_done_iff.mp other
    exact .inl ⟨rfl, rfl⟩
  | @ask q answer next log a _ ih =>
    obtain ⟨answer', rest, hrest, rfl⟩ := run_ask_iff.mp other
    by_cases h : answer' = answer
    · subst h
      obtain ⟨rfl, rfl⟩ | ⟨before, q', first, second, after, after', rfl, rfl, hne⟩ := ih hrest
      · exact .inl ⟨rfl, rfl⟩
      · exact .inr ⟨_ :: before, q', first, second, after, after', rfl, rfl, hne⟩
    · exact .inr ⟨[], q, answer, answer', log, rest, rfl, rfl, h⟩

/-- A run of one question, after whose answer the value is known. -/
theorem run_ask_done_iff {q : I.Question} {f : I.Answer q → α} {log : List (Exchange I)} {a : α} :
    Run (ask q fun answer => done (f answer)) log a ↔
      ∃ answer, log = [⟨q, answer⟩] ∧ a = f answer := by
  refine run_ask_iff.trans ⟨?_, ?_⟩
  · rintro ⟨answer, rest, h, rfl⟩
    obtain ⟨rfl, rfl⟩ := run_done_iff.mp h
    exact ⟨answer, rfl, rfl⟩
  · rintro ⟨answer, rfl, rfl⟩
    exact ⟨answer, [], .done _, rfl⟩

/-- A run of one question ends with its answer. -/
theorem run_call_iff {q : I.Question} {log : List (Exchange I)} {answer : I.Answer q} :
    Run (call q) log answer ↔ log = [⟨q, answer⟩] := by
  refine run_ask_done_iff.trans ⟨?_, ?_⟩
  · rintro ⟨_, rfl, rfl⟩
    rfl
  · rintro rfl
    exact ⟨answer, rfl, rfl⟩

/-- A run of a computation that may fail and, where it has not, of one that follows. -/
theorem run_bind_except {ε : Type} {d : Dialogue I (Except ε α × σ)}
    {g : Except ε α × σ → Dialogue I (Except ε β × σ)} {f : α → σ → Dialogue I (Except ε β × σ)}
    (hok : ∀ a s, g (.ok a, s) = f a s) (herror : ∀ e s, g (.error e, s) = done (.error e, s))
    {log : List (Exchange I)} {out : Except ε β × σ} :
    Run (d.bind g) log out ↔
      (∃ first rest a s, Run d first (.ok a, s) ∧ Run (f a s) rest out ∧ log = first ++ rest) ∨
      ∃ e s, Run d log (.error e, s) ∧ out = (.error e, s) := by
  refine Run.bind.trans ⟨?_, ?_⟩
  · rintro ⟨first, rest, ⟨e | a, s⟩, hd, hg, rfl⟩
    · rw [herror] at hg
      obtain ⟨rfl, rfl⟩ := run_done_iff.mp hg
      exact .inr ⟨e, s, by rwa [List.append_nil], rfl⟩
    · rw [hok] at hg
      exact .inl ⟨first, rest, a, s, hd, hg, rfl⟩
  · rintro (⟨first, rest, a, s, hd, hf, rfl⟩ | ⟨e, s, hd, rfl⟩)
    · exact ⟨first, rest, _, hd, by rwa [hok], rfl⟩
    · exact ⟨log, [], _, hd, by rw [herror]; exact .done _, (List.append_nil log).symm⟩

/-- What is ensured holds of a run: each question is allowed after what came before it, and the end
meets the postcondition. -/
theorem Run.ensured {allowed : List (Exchange I) → I.Question → Prop}
    {post : List (Exchange I) → α → Prop} {d : Dialogue I α} {log : List (Exchange I)} {a : α}
    (run : Run d log a) {past : List (Exchange I)} (h : d.Ensures (watch allowed) post past) :
    (∀ {before x after}, log = before ++ x :: after → allowed (past ++ before) x.question) ∧
      post (past ++ log) a := by
  induction run generalizing past with
  | done a => exact ⟨fun {before x after} e => by simp at e, by simpa using h⟩
  | ask q answer rest ih =>
    obtain ⟨hq, hnext⟩ := h
    obtain ⟨hall, hpost⟩ := ih (hnext answer)
    refine ⟨fun {before x after} e => ?_, by simpa using hpost⟩
    rcases List.cons_eq_append_iff.mp e with ⟨rfl, e⟩ | ⟨before, rfl, e⟩
    · obtain ⟨rfl, -⟩ := List.cons.inj e
      simpa using hq
    · simpa using hall (List.cons.inj e).2

/-- A run of a dialogue whose questions others answer is a run of the dialogue. -/
theorem Run.of_forward {handler : (q : I.Question) → Dialogue J (I.Answer q)} {d : Dialogue I α}
    {log : List (Exchange J)} {a : α} (run : Run (d.forward handler) log a) :
    ∃ log, Run d log a := by
  induction d generalizing log with
  | done b =>
    cases run
    exact ⟨[], .done _⟩
  | ask q next ih =>
    obtain ⟨_, _, answer, -, rest, -⟩ := Run.bind.mp run
    obtain ⟨log, rest⟩ := ih answer rest
    exact ⟨_, .ask q answer rest⟩

/-- A run of a dialogue whose questions others answer is made of runs of the answering ones. -/
theorem Run.forward_ask {handler : (q : I.Question) → Dialogue J (I.Answer q)} {q : I.Question}
    {next : I.Answer q → Dialogue I α} {answer : I.Answer q} {first rest : List (Exchange J)}
    {a : α} (answered : Run (handler q) first answer)
    (run : Run ((next answer).forward handler) rest a) :
    Run ((Dialogue.ask q next).forward handler) (first ++ rest) a :=
  Run.bind.mpr ⟨first, rest, answer, answered, run, rfl⟩

/-- The runs that answer the questions of a log, put together. -/
inductive Answering (handler : (q : I.Question) → Dialogue J (I.Answer q)) :
    List (Exchange I) → List (Exchange J) → Prop where
  | nil : Answering handler [] []
  | cons {q : I.Question} {answer : I.Answer q} {inner : List (Exchange I)}
      {first rest : List (Exchange J)} (run : Run (handler q) first answer)
      (later : Answering handler inner rest) :
      Answering handler (⟨q, answer⟩ :: inner) (first ++ rest)

section Answering

variable {handler : (q : I.Question) → Dialogue J (I.Answer q)} {inner inner' : List (Exchange I)}
  {log : List (Exchange J)}

theorem answering_cons {x : Exchange I} :
    Answering handler (x :: inner) log ↔ ∃ first rest, Run (handler x.question) first x.answer ∧
      Answering handler inner rest ∧ log = first ++ rest := by
  constructor
  · rintro (_ | ⟨run, later⟩)
    exact ⟨_, _, run, later, rfl⟩
  · rintro ⟨first, rest, run, later, rfl⟩
    exact .cons run later

theorem answering_append :
    Answering handler (inner ++ inner') log ↔ ∃ first rest, Answering handler inner first ∧
      Answering handler inner' rest ∧ log = first ++ rest := by
  induction inner generalizing log with
  | nil =>
    constructor
    · intro h
      exact ⟨[], log, .nil, h, rfl⟩
    · rintro ⟨first, rest, hfirst, hrest, rfl⟩
      cases hfirst
      exact hrest
  | cons x inner ih =>
    rw [List.cons_append, answering_cons]
    constructor
    · rintro ⟨first, _, run, later, rfl⟩
      obtain ⟨middle, rest, hmiddle, hrest, rfl⟩ := ih.mp later
      exact ⟨first ++ middle, rest, .cons run hmiddle, hrest, (List.append_assoc _ _ _).symm⟩
    · rintro ⟨_, rest, hfirst, hrest, rfl⟩
      obtain ⟨first, middle, run, hmiddle, rfl⟩ := answering_cons.mp hfirst
      exact ⟨first, middle ++ rest, run, ih.mpr ⟨middle, rest, hmiddle, hrest, rfl⟩,
        List.append_assoc _ _ _⟩

/-- A run of a dialogue whose questions others answer, by the runs that answer them. -/
theorem run_forward_iff {d : Dialogue I α} {a : α} :
    Run (d.forward handler) log a ↔ ∃ inner, Run d inner a ∧ Answering handler inner log := by
  induction d generalizing log with
  | done b =>
    refine run_done_iff.trans ⟨?_, ?_⟩
    · rintro ⟨rfl, rfl⟩
      exact ⟨[], .done _, .nil⟩
    · rintro ⟨inner, run, h⟩
      obtain ⟨rfl, rfl⟩ := run_done_iff.mp run
      cases h
      exact ⟨rfl, rfl⟩
  | ask q next ih =>
    refine Run.bind.trans ⟨?_, ?_⟩
    · rintro ⟨first, rest, answer, run, later, rfl⟩
      obtain ⟨inner, hinner, h⟩ := (ih answer).mp later
      exact ⟨_, .ask q answer hinner, .cons run h⟩
    · rintro ⟨_, run, h⟩
      obtain ⟨answer, inner, hinner, rfl⟩ := run_ask_iff.mp run
      obtain ⟨first, rest, hfirst, hrest, rfl⟩ := answering_cons.mp h
      exact ⟨first, rest, answer, hfirst, (ih answer).mpr ⟨inner, hinner, hrest⟩, rfl⟩

/-- Where each question is passed on as one question, the log is passed on. -/
theorem answering_map {pass : Exchange I → Exchange J}
    (hpass : ∀ x log, Run (handler x.question) log x.answer ↔ log = [pass x]) :
    Answering handler inner log ↔ log = inner.map pass := by
  induction inner generalizing log with
  | nil =>
    constructor
    · intro h
      cases h
      rfl
    · rintro rfl
      exact .nil
  | cons x inner ih =>
    rw [answering_cons]
    constructor
    · rintro ⟨first, rest, run, later, rfl⟩
      rw [(hpass x first).mp run, ih.mp later]
      rfl
    · rintro rfl
      exact ⟨[pass x], inner.map pass, (hpass x _).mpr rfl, ih.mpr rfl, rfl⟩

end Answering

/-- Each question of a run that starts with nothing exchanged is allowed. -/
theorem Run.allowed_of_ensures {allowed : List (Exchange I) → I.Question → Prop}
    {post : List (Exchange I) → α → Prop} {d : Dialogue I α}
    (h : d.Ensures (watch allowed) post []) {log : List (Exchange I)} {a : α} (run : Run d log a)
    {before after : List (Exchange I)} {x : Exchange I} (e : log = before ++ x :: after) :
    allowed before x.question := by
  simpa using (run.ensured h).1 e

/-- The end of a run that starts with nothing exchanged meets the postcondition. -/
theorem Run.post_of_ensures {allowed : List (Exchange I) → I.Question → Prop}
    {post : List (Exchange I) → α → Prop} {d : Dialogue I α}
    (h : d.Ensures (watch allowed) post []) {log : List (Exchange I)} {a : α}
    (run : Run d log a) : post log a := by
  simpa using (run.ensured h).2

/-- Where every answer is admitted, each question of a run is allowed and the end meets the
postcondition. -/
theorem Run.of_asking {allowed : I.Question → Prop} {admitted : Exchange I → Prop}
    {post : Unit → α → Prop} {d : Dialogue I α} {log : List (Exchange I)} {a : α}
    (run : Run d log a) (h : d.Ensures (asking allowed admitted) post ())
    (hlog : ∀ x ∈ log, admitted x) : (∀ x ∈ log, allowed x.question) ∧ post () a := by
  induction run with
  | done a => exact ⟨nofun, h⟩
  | ask q answer rest ih =>
    obtain ⟨hx, hrest⟩ := List.forall_mem_cons.mp hlog
    obtain ⟨hall, hpost⟩ := ih (h.2 answer hx) hrest
    exact ⟨List.forall_mem_cons.mpr ⟨h.1, hall⟩, hpost⟩

/-! ## Answers by a function -/

/-- A dialogue whose questions others answer, when those are answered by a function. -/
theorem run_forward (handler : (q : I.Question) → Dialogue J (I.Answer q))
    (answers : (q : J.Question) → J.Answer q) (d : Dialogue I α) :
    (d.forward handler).run answers = d.run fun q => (handler q).run answers := by
  induction d with
  | done a => rfl
  | ask q next ih =>
    show ((handler q).bind fun answer => (next answer).forward handler).run answers = _
    rw [run_bind, ih]
    rfl

/-- There is a run in which every question is answered as by a function. -/
theorem exists_run (answers : (q : I.Question) → I.Answer q) (d : Dialogue I α) :
    ∃ log, Run d log (d.run answers) ∧ ∀ x ∈ log, x.answer = answers x.question := by
  induction d with
  | done a => exact ⟨[], .done a, fun x hx => absurd hx List.not_mem_nil⟩
  | ask q next ih =>
    obtain ⟨log, rest, hlog⟩ := ih (answers q)
    exact ⟨_, .ask q (answers q) rest, List.forall_mem_cons.mpr ⟨rfl, hlog⟩⟩

/-- A run in which every question is answered as by a function ends as the function has it. -/
theorem Run.eq_run {answers : (q : I.Question) → I.Answer q} {d : Dialogue I α}
    {log : List (Exchange I)} {a : α} (run : Run d log a)
    (h : ∀ x ∈ log, x.answer = answers x.question) : a = d.run answers := by
  induction run with
  | done a => rfl
  | ask q answer rest ih =>
    obtain ⟨hx, hrest⟩ := List.forall_mem_cons.mp h
    obtain rfl : answer = answers q := hx
    exact ih hrest

end ResourceOperator.Dialogue
