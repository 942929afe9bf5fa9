import ResourceOperator.Proofs.Dialogue
import ResourceOperator.Reconcile.Basic

/-!
# What the parts of a reconciliation ensure

A `Task` is a dialogue that passes a resource along, so a postcondition on it speaks of a state, of
the task's result and of the resource it leaves. These are the rules for the ways tasks are built,
for any rule of the questions: one equivalence for each constructor, all of them simp lemmas.

* `ensures_bind`: the second task starts only where the first succeeded (`After`).
* `ensures_write`: a write that the resource does not call for asks nothing.
* `ensures_attempt`: a failure becomes a value.
-/

namespace ResourceOperator

open Dialogue

/-- The exchanges of a reconciliation so far. -/
abbrev Reconcile.History (k : Kind) := List (Exchange (Lifecycle k))

namespace Task

variable {k : Kind} {σ α β : Type} {rule : Rule (Lifecycle k) σ}

/-- What is left to ensure after a first task: the second one where it succeeded, the postcondition
where it failed. -/
def After (rule : Rule (Lifecycle k) σ) (f : α → Task k β)
    (post : σ → Except ReconcileError β × Managed k → Prop) (s : σ) :
    Except ReconcileError α × Managed k → Prop
  | (.ok a, r) => (f a r).Ensures rule post s
  | (.error e, r) => post s (.error e, r)

section Rules

variable {post : σ → Except ReconcileError β × Managed k → Prop} {s : σ} {r : Managed k}

@[simp] theorem after_ok {f : α → Task k β} {a : α} :
    After rule f post s (.ok a, r) ↔ (f a r).Ensures rule post s := Iff.rfl

@[simp] theorem after_error {f : α → Task k β} {e : ReconcileError} :
    After rule f post s (.error e, r) ↔ post s (.error e, r) := Iff.rfl

@[simp] theorem ensures_pure {b : β} :
    ((pure b : Task k β) r).Ensures rule post s ↔ post s (.ok b, r) := Iff.rfl

@[simp] theorem ensures_bind (t : Task k α) (f : α → Task k β) :
    ((t >>= f) r).Ensures rule post s ↔ (t r).Ensures rule (After rule f post) s := by
  show ((t r).bind _).Ensures rule post s ↔ _
  rw [Dialogue.ensures_bind]
  refine iff_of_eq (congrArg (fun p => (t r).Ensures rule p s) ?_)
  funext s out
  rcases out with ⟨a | e, r⟩ <;> rfl

@[simp] theorem ensures_modify {f : Managed k → Managed k}
    {post : σ → Except ReconcileError Unit × Managed k → Prop} :
    (modify f r).Ensures rule post s ↔ post s (.ok (), f r) := Iff.rfl

@[simp] theorem ensures_read {f : Managed k → β} :
    (read f r).Ensures rule post s ↔ post s (.ok (f r), r) := Iff.rfl

@[simp] theorem ensures_ofResult {result : Except ReconcileError β} :
    (ofResult result r).Ensures rule post s ↔ post s (result, r) := Iff.rfl

@[simp] theorem ensures_attempt {t : Task k α}
    {post : σ → Except ReconcileError (Except ReconcileError α) × Managed k → Prop} :
    (t.attempt r).Ensures rule post s ↔
      (t r).Ensures rule (fun s out => post s (.ok out.1, out.2)) s :=
  Dialogue.ensures_bind (t r) _

/-- A write asks the cluster, or nothing when the resource does not call for it. -/
theorem ensures_write {call : Managed k → Option Cluster.Call}
    {post : σ → Except ReconcileError Unit × Managed k → Prop} :
    (write call r).Ensures rule post s ↔
      match call r with
      | none => post s (.ok (), r)
      | some c => rule (.cluster c) (fun s answer => post s (answer, r)) s := by
  unfold write
  cases call r <;> rfl

/-- A second task that is in order in every state adds nothing to ensure. -/
theorem ensures_bind_anyEnd (hr : rule.Monotone) {t : Task k α} {f : α → Task k β}
    (ht : (t r).Ensures rule anyEnd s) (hf : ∀ s a r, (f a r).Ensures rule anyEnd s) :
    ((t >>= f) r).Ensures rule anyEnd s := by
  rw [ensures_bind]
  refine ht.of_anyEnd hr fun s out => ?_
  obtain ⟨e | a, r⟩ := out
  · trivial
  · exact hf s a r

end Rules

/-! ## Operations on the remote object -/

section Operations

variable {s : σ} {r : Managed k}

/-- What an operation leaves to ensure: its result, as a result of the reconciliation, and the
resource as it left it. -/
def Settled (post : σ → Except ReconcileError α × Managed k → Prop) (s : σ) (o : Outcome k α) :
    Prop :=
  post s (o.result.mapError .engine, o.resource)

@[simp] theorem settled_ok {f : α → Task k β}
    {post : σ → Except ReconcileError β × Managed k → Prop} {a : α} :
    Settled (After rule f post) s ⟨.ok a, r⟩ ↔ (f a r).Ensures rule post s := Iff.rfl

@[simp] theorem settled_error {f : α → Task k β}
    {post : σ → Except ReconcileError β × Managed k → Prop} {e : EngineError} :
    Settled (After rule f post) s ⟨.error e, r⟩ ↔ post s (.error (.engine e), r) := Iff.rfl

@[simp] theorem ensures_resolveReferences
    {post : σ → Except ReconcileError Resolved × Managed k → Prop} :
    (resolveReferences r).Ensures rule post s ↔ rule (.resolveReferences r) (Settled post) s :=
  Iff.rfl

@[simp] theorem ensures_observe {post : σ → Except ReconcileError Observed × Managed k → Prop} :
    (observe r).Ensures rule post s ↔ rule (.observe r) (Settled post) s := Iff.rfl

@[simp] theorem ensures_create {post : σ → Except ReconcileError Created × Managed k → Prop} :
    (create r).Ensures rule post s ↔ rule (.create r) (Settled post) s := Iff.rfl

@[simp] theorem ensures_update {post : σ → Except ReconcileError Unit × Managed k → Prop} :
    (update r).Ensures rule post s ↔ rule (.update r) (Settled post) s := Iff.rfl

@[simp] theorem ensures_delete {post : σ → Except ReconcileError Unit × Managed k → Prop} :
    (delete r).Ensures rule post s ↔ rule (.delete r) (Settled post) s := Iff.rfl

end Operations

/-! ## Tasks under a condition -/

/-- A task that is run only under a condition. -/
def when (condition : Bool) (t : Task k Unit) : Task k Unit :=
  if condition then t else pure ()

theorem when_write (condition : Bool) (call : Managed k → Option Cluster.Call) :
    when condition (write call) = write fun r => if condition then call r else none := by
  cases condition <;> rfl

theorem ite_bind (condition : Bool) (t : Task k Unit) (f : Unit → Task k α) :
    (if condition = true then t >>= f else f ()) = when condition t >>= f := by
  cases condition <;> rfl

end Task

/-! ## The parts of a reconciliation in sequence -/

namespace Reconcile

open ResourceOperator.Task

variable {k : Kind} (context : Context) (name : String)

theorem tearDown_eq :
    (tearDown context name : Task k Action) =
      read isDeleting >>= fun deleting => when (!deleting) delete >>= fun _ =>
        modify (Managed.setCondition (.reconcileSuccess context.now)) >>= fun _ =>
        publishStatus name >>= fun _ => pure (.requeue context.errorRequeue) := by
  simp only [tearDown, ite_bind]

theorem syncPresent_eq (observed : Observed) :
    (syncPresent context name observed : Task k Action) =
      when observed.lateInitialized (storeDesired name) >>= fun _ =>
        publishDetails observed.connectionDetails >>= fun _ =>
        when (!observed.upToDate) update >>= fun _ =>
        modify (Managed.setCondition (.reconcileSuccess context.now)) >>= fun _ =>
        pure (.requeue context.requeue) := by
  simp only [syncPresent, ite_bind]

/-- Waits for references. -/
def await (fields : List String) : Task k Action :=
  modify (Managed.setCondition (.reconcileError (pendingMessage fields) context.now)) >>= fun _ =>
    pure (.requeue context.errorRequeue)

theorem sync_eq :
    (sync context name : Task k Action) =
      resolveReferences >>= fun resolved => when resolved.changed (storeDesired name) >>= fun _ =>
        if resolved.pending.isEmpty then
          observe >>= fun observed =>
            if observed.present then syncPresent context name observed else syncAbsent context name
        else await context resolved.pending := by
  simp only [sync, ite_bind, await]
  congr
  funext resolved
  congr
  funext
  cases resolved.pending.isEmpty <;> rfl

theorem reconcileWanted_eq :
    (reconcileWanted context name : Task k Action) =
      read hasFinalizer >>= fun kept =>
        when (!kept) (write fun _ => some (.addFinalizer name)) >>= fun _ =>
        (sync context name).attempt >>= fun result => noteFailure context result >>= fun _ =>
        (publishStatus name).attempt >>= fun status => ofResult result >>= fun action =>
        ofResult status >>= fun _ => pure action := by
  simp only [reconcileWanted, ite_bind]

end Reconcile

end ResourceOperator
