import ResourceOperator.Proofs.Reconcile.Gate

/-!
# Runs of tasks

A run of a `Task` is a log of exchanges with a result and the resource that is left. There is one
equivalence for each way to build a task: what its runs are, in terms of the runs of its parts.

* `run_bind`: a run of two tasks in sequence is one of each, or one of the first that failed.
* `run_write`: a write is one exchange, or none when the resource does not call for it.
* `run_write_bind`: what follows a write runs where the write succeeded or was not due.
* `run_attempt`: a failure becomes a value.
* `run_observe_bind` and one lemma for each operation: what follows it runs where the one exchange
  that it is succeeded (`Continued`).
-/

namespace ResourceOperator.Task

open Dialogue

variable {k : Kind} {α β : Type} {r : Managed k} {log : Reconcile.History k}

@[simp] theorem run_pure {a : α} {out : Except ReconcileError α × Managed k} :
    Run ((pure a : Task k α) r) log out ↔ log = [] ∧ out = (.ok a, r) := run_done_iff

@[simp] theorem run_ofResult {result : Except ReconcileError α}
    {out : Except ReconcileError α × Managed k} :
    Run (ofResult result r) log out ↔ log = [] ∧ out = (result, r) := run_done_iff

theorem read_bind (f : Managed k → α) (g : α → Task k β) :
    (read f >>= g) r = g (f r) r := rfl

/-- The second task runs where the first one succeeded. -/
theorem run_bind {t : Task k α} {f : α → Task k β} {out : Except ReconcileError β × Managed k} :
    Run ((t >>= f) r) log out ↔
      (∃ first rest a middle, Run (t r) first (.ok a, middle) ∧ Run (f a middle) rest out ∧
        log = first ++ rest) ∨
      ∃ e left, Run (t r) log (.error e, left) ∧ out = (.error e, left) :=
  run_bind_except (d := t r) (f := f) (fun _ _ => rfl) fun _ _ => rfl

@[simp] theorem run_attempt {t : Task k α}
    {out : Except ReconcileError (Except ReconcileError α) × Managed k} :
    Run (t.attempt r) log out ↔
      ∃ result left, Run (t r) log (result, left) ∧ out = (.ok result, left) := by
  refine Run.bind.trans ⟨?_, ?_⟩
  · rintro ⟨first, rest, ⟨result, left⟩, ht, hf, rfl⟩
    obtain ⟨rfl, rfl⟩ := run_done_iff.mp hf
    exact ⟨result, left, by rwa [List.append_nil], rfl⟩
  · rintro ⟨result, left, ht, rfl⟩
    exact ⟨log, [], _, ht, .done _, (List.append_nil log).symm⟩

/-- What is attempted is followed by the rest in every case. -/
theorem run_attempt_bind {t : Task k α} {f : Except ReconcileError α → Task k β}
    {out : Except ReconcileError β × Managed k} :
    Run ((t.attempt >>= f) r) log out ↔
      ∃ first rest result left, Run (t r) first (result, left) ∧ Run (f result left) rest out ∧
        log = first ++ rest := by
  refine run_bind.trans ⟨?_, ?_⟩
  · rintro (⟨first, rest, a, middle, ht, hf, rfl⟩ | ⟨e, left, ht, rfl⟩)
    · obtain ⟨_, _, ht, hout⟩ := run_attempt.mp ht
      cases hout
      exact ⟨first, rest, _, _, ht, hf, rfl⟩
    · obtain ⟨_, _, -, hout⟩ := run_attempt.mp ht
      cases hout
  · rintro ⟨first, rest, result, left, ht, hf, rfl⟩
    exact .inl ⟨first, rest, result, left, run_attempt.mpr ⟨result, left, ht, rfl⟩, hf, rfl⟩

/-- A write asks the cluster, or nothing when the resource does not call for it. -/
theorem run_write {call : Managed k → Option Cluster.Call}
    {out : Except ReconcileError Unit × Managed k} :
    Run (write call r) log out ↔
      match call r with
      | none => log = [] ∧ out = (.ok (), r)
      | some c => ∃ answer, log = [⟨.cluster c, answer⟩] ∧ out = (answer, r) := by
  unfold write
  cases call r with
  | none => exact run_done_iff
  | some c => exact run_ask_done_iff

/-- A write that succeeds leaves the resource as it is. -/
theorem run_write_ok {call : Managed k → Option Cluster.Call} {a : Unit} {left : Managed k} :
    Run (write call r) log (.ok a, left) ↔ log = Reconcile.written (call r) ∧ left = r := by
  rw [run_write]
  cases call r with
  | none => simp [Reconcile.written]
  | some c =>
    constructor
    · rintro ⟨answer, rfl, hout⟩
      cases hout
      exact ⟨rfl, rfl⟩
    · rintro ⟨rfl, rfl⟩
      exact ⟨.ok (), rfl, rfl⟩

/-- So does a write that was due and fails. -/
theorem run_write_error {call : Managed k → Option Cluster.Call} {e : ReconcileError}
    {left : Managed k} :
    Run (write call r) log (.error e, left) ↔
      ∃ c, call r = some c ∧ log = [⟨.cluster c, .error e⟩] ∧ left = r := by
  rw [run_write]
  cases call r with
  | none => simp
  | some c =>
    constructor
    · rintro ⟨answer, rfl, hout⟩
      cases hout
      exact ⟨c, rfl, rfl, rfl⟩
    · rintro ⟨_, hc, rfl, rfl⟩
      cases hc
      exact ⟨.error e, rfl, rfl⟩

/-- What follows a write runs where the write succeeded or was not due. -/
theorem run_write_bind {call : Managed k → Option Cluster.Call} {f : Unit → Task k α}
    {out : Except ReconcileError α × Managed k} :
    Run ((write call >>= f) r) log out ↔
      (∃ rest, Run (f () r) rest out ∧ log = Reconcile.written (call r) ++ rest) ∨
      ∃ c e, call r = some c ∧ log = [⟨.cluster c, .error e⟩] ∧ out = (.error e, r) := by
  rw [run_bind]
  constructor
  · rintro (⟨first, rest, _, middle, hw, hf, rfl⟩ | ⟨e, left, hw, rfl⟩)
    · obtain ⟨rfl, rfl⟩ := run_write_ok.mp hw
      exact .inl ⟨rest, hf, rfl⟩
    · obtain ⟨c, hc, rfl, rfl⟩ := run_write_error.mp hw
      exact .inr ⟨c, e, hc, rfl, rfl⟩
  · rintro (⟨rest, hf, rfl⟩ | ⟨c, e, hc, rfl, rfl⟩)
    · exact .inl ⟨_, rest, (), r, run_write_ok.mpr ⟨rfl, rfl⟩, hf, rfl⟩
    · exact .inr ⟨e, r, run_write_error.mpr ⟨c, hc, rfl, rfl⟩, rfl⟩

/-- Where it all succeeds, so has the write. -/
theorem run_write_bind_ok {call : Managed k → Option Cluster.Call} {f : Unit → Task k α} {a : α}
    {left : Managed k} :
    Run ((write call >>= f) r) log (.ok a, left) ↔
      ∃ rest, Run (f () r) rest (.ok a, left) ∧ log = Reconcile.written (call r) ++ rest := by
  refine run_write_bind.trans ⟨?_, .inl⟩
  rintro (h | ⟨c, e, -, -, hout⟩)
  · exact h
  · cases hout

/-! ## Operations on the remote object -/

/-- What follows an operation runs where that has succeeded. -/
def Continued (f : α → Task k β) (rest : Reconcile.History k)
    (out : Except ReconcileError β × Managed k) : Outcome k α → Prop
  | ⟨.ok a, left⟩ => Run (f a left) rest out
  | ⟨.error e, left⟩ => rest = [] ∧ out = (.error (.engine e), left)

/-- Where it all succeeds, so has the operation. -/
theorem Continued.succeeded {f : α → Task k β} {rest : Reconcile.History k} {b : β}
    {left : Managed k} {o : Outcome k α} (h : Continued f rest (.ok b, left) o) :
    ∃ a middle, o = .ok a middle ∧ Run (f a middle) rest (.ok b, left) := by
  obtain ⟨e | a, middle⟩ := o
  · cases h.2
  · exact ⟨a, middle, rfl, h⟩

/-- A question that an operation is, before what follows. -/
theorem run_ask_bind (r : Managed k) (q : LifecycleCall k)
    (outcome : (Lifecycle k).Answer q → Outcome k α) {f : α → Task k β}
    {out : Except ReconcileError β × Managed k} :
    Run ((ofOutcome (fun _ => .ask q fun answer => .done (outcome answer)) >>= f) r) log out ↔
      ∃ answer rest, log = ⟨q, answer⟩ :: rest ∧ Continued f rest out (outcome answer) := by
  have follows : ∀ (o : Outcome k α) rest,
      Run ((ofOutcome (fun _ => .done o) >>= f) r) rest out ↔ Continued f rest out o := by
    rintro ⟨e | a, left⟩ rest
    · exact run_done_iff
    · exact Iff.rfl
  refine run_ask_iff.trans ⟨?_, ?_⟩
  · rintro ⟨answer, rest, h, rfl⟩
    exact ⟨answer, rest, rfl, (follows _ rest).mp h⟩
  · rintro ⟨answer, rest, rfl, h⟩
    exact ⟨answer, rest, (follows _ rest).mpr h, rfl⟩

section Operations

variable {out : Except ReconcileError β × Managed k}

theorem run_resolveReferences_bind {f : Resolved → Task k β} :
    Run ((resolveReferences >>= f) r) log out ↔
      ∃ o rest, log = ⟨.resolveReferences r, o⟩ :: rest ∧ Continued f rest out o :=
  run_ask_bind r (.resolveReferences r) id

theorem run_observe_bind {f : Observed → Task k β} :
    Run ((observe >>= f) r) log out ↔
      ∃ o rest, log = ⟨.observe r, o⟩ :: rest ∧ Continued f rest out o :=
  run_ask_bind r (.observe r) id

theorem run_create_bind {f : Created → Task k β} :
    Run ((create >>= f) r) log out ↔
      ∃ o rest, log = ⟨.create r, o⟩ :: rest ∧ Continued f rest out o :=
  run_ask_bind r (.create r) id

theorem run_update_bind {f : Unit → Task k β} :
    Run ((update >>= f) r) log out ↔
      ∃ o rest, log = ⟨.update r, o⟩ :: rest ∧ Continued f rest out o :=
  run_ask_bind r (.update r) id

theorem run_delete_bind {f : Unit → Task k β} :
    Run ((delete >>= f) r) log out ↔
      ∃ o rest, log = ⟨.delete r, o⟩ :: rest ∧ Continued f rest out o :=
  run_ask_bind r (.delete r) id

end Operations

end ResourceOperator.Task
