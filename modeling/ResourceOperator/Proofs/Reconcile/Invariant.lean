import ResourceOperator.Proofs.Reconcile.Task

/-!
# Invariants of a reconciliation

An invariant relates what has happened to the resource that a task works on. `Maintains` says that
a task keeps one, whatever it is answered. `Calm` says that every single call of a reconciliation
keeps it, a creation apart. A creation has a part of its own to play: what keeps an invariant across
`branch`, where the remote object is created when it is absent, is for each invariant to prove.

Results:
* `maintains_bind` and one lemma for each way to build a task.
* `Calm.run`: an invariant of all calls but creation that `branch` keeps is one of every run.
* `Calm.branch_of_create`: where a creation keeps it too, `branch` keeps it.
-/

namespace ResourceOperator

open Dialogue

namespace Task

variable {k : Kind} {σ α β : Type} {rule : Rule (Lifecycle k) σ} {inv : σ → Managed k → Prop}

/-- Wherever the invariant holds before the task, the task obeys the rule and the invariant holds
after it. -/
def Maintains (rule : Rule (Lifecycle k) σ) (inv : σ → Managed k → Prop) (t : Task k α) : Prop :=
  ∀ s r, inv s r → (t r).Ensures rule (fun s out => inv s out.2) s

theorem maintains_bind (hr : rule.Monotone) {t : Task k α} {f : α → Task k β}
    (ht : Maintains rule inv t) (hf : ∀ a, Maintains rule inv (f a)) :
    Maintains rule inv (t >>= f) := by
  intro s r h
  rw [ensures_bind]
  refine (ht s r h).mono hr fun s out h => ?_
  obtain ⟨e | a, r⟩ := out
  · exact h
  · exact hf a s r h

theorem maintains_pure (a : α) : Maintains rule inv (pure a) := fun _ _ h => h

theorem maintains_read (f : Managed k → α) : Maintains rule inv (read f) := fun _ _ h => h

theorem maintains_ofResult (result : Except ReconcileError α) :
    Maintains rule inv (ofResult result) := fun _ _ h => h

theorem maintains_modify {f : Managed k → Managed k} (hf : ∀ s r, inv s r → inv s (f r)) :
    Maintains rule inv (modify f) := fun s r h => hf s r h

theorem maintains_attempt {t : Task k α} (ht : Maintains rule inv t) :
    Maintains rule inv t.attempt := fun s r h => ensures_attempt.mpr (ht s r h)

theorem maintains_when (condition : Bool) {t : Task k Unit} (ht : Maintains rule inv t) :
    Maintains rule inv (when condition t) := by
  cases condition with
  | true => exact ht
  | false => exact maintains_pure ()

theorem maintains_write {call : Managed k → Option Cluster.Call}
    (hc : ∀ s r c, inv s r → call r = some c → rule (.cluster c) (fun s _ => inv s r) s) :
    Maintains rule inv (write call) := by
  intro s r h
  rw [ensures_write]
  cases hcall : call r with
  | none => exact h
  | some c => exact hc s r c h hcall

end Task

namespace Reconcile

open ResourceOperator.Task

variable {k : Kind} {σ : Type} {rule : Rule (Lifecycle k) σ} {inv : σ → Managed k → Prop}

/-- The call writes what it writes about the resource as the resource has it: a patch its
annotations and its spec, a patch of the status its status. -/
def WrittenBy (r : Managed k) : Cluster.Call → Prop
  | .patch _ body => body = r.desiredStatePatch
  | .patchStatus _ status => ∃ s, r.status = some s ∧ status = s.encode
  | _ => True

/-- Every call of a reconciliation keeps the invariant, a creation apart, and so does a change of
the conditions. What is written is the resource in hand. -/
structure Calm (rule : Rule (Lifecycle k) σ) (inv : σ → Managed k → Prop) : Prop where
  mono : rule.Monotone
  condition : ∀ s r c, inv s r → inv s (r.setCondition c)
  resolveReferences : ∀ s r, inv s r → rule (.resolveReferences r) (fun s o => inv s o.resource) s
  observe : ∀ s r, inv s r → rule (.observe r) (fun s o => inv s o.resource) s
  update : ∀ s r, inv s r → rule (.update r) (fun s o => inv s o.resource) s
  delete : ∀ s r, inv s r → rule (.delete r) (fun s o => inv s o.resource) s
  write : ∀ s r c, inv s r → WrittenBy r c → rule (.cluster c) (fun s _ => inv s r) s

/-- What follows once nothing is pending: the remote object is observed, and created when it is
absent. -/
def branch (context : Context) (name : String) : Task k Action :=
  Task.observe >>= fun observed =>
    if observed.present then syncPresent context name observed else syncAbsent context name

namespace Calm

variable (context : Context) (name : String)

theorem setCondition (h : Calm rule inv) (c : Condition) :
    Maintains rule inv (modify (Managed.setCondition c)) :=
  maintains_modify fun s r hi => h.condition s r c hi

/-- A write of what the resource has keeps the invariant. -/
theorem writes (h : Calm rule inv) {call : Managed k → Option Cluster.Call}
    (hc : ∀ r c, call r = some c → WrittenBy r c) : Maintains rule inv (Task.write call) :=
  maintains_write fun s r c hi e => h.write s r c hi (hc r c e)

theorem storeDesired (h : Calm rule inv) : Maintains rule inv (storeDesired name) :=
  h.writes fun r c e => by
    cases e
    rfl

theorem publishStatus (h : Calm rule inv) : Maintains rule inv (publishStatus name) :=
  h.writes fun r c e => by
    obtain ⟨status, hs, rfl⟩ := Option.map_eq_some_iff.mp e
    exact ⟨status, hs, rfl⟩

theorem publishDetails (h : Calm rule inv) (details : Table String) :
    Maintains rule inv (publishDetails details) :=
  h.writes fun r c e => by
    split at e
    · cases e
    · obtain ⟨secret, -, rfl⟩ := Option.map_eq_some_iff.mp e
      trivial

theorem syncPresent (h : Calm rule inv) (observed : Observed) :
    Maintains rule inv (syncPresent context name observed) := by
  rw [syncPresent_eq]
  refine maintains_bind h.mono (maintains_when _ (h.storeDesired name)) fun _ => ?_
  refine maintains_bind h.mono (h.publishDetails _) fun _ => ?_
  refine maintains_bind h.mono (maintains_when _ h.update) fun _ => ?_
  exact maintains_bind h.mono (h.setCondition _) fun _ => maintains_pure _

theorem release (h : Calm rule inv) : Maintains rule inv (release name) := by
  refine maintains_bind h.mono (h.writes fun r c e => ?_) fun _ => ?_
  · obtain ⟨secret, -, rfl⟩ := Option.map_eq_some_iff.mp e
    trivial
  · exact maintains_bind h.mono (h.writes fun _ _ e => by cases e; trivial) fun _ =>
      maintains_pure _

theorem tearDown (h : Calm rule inv) : Maintains rule inv (tearDown context name) := by
  rw [tearDown_eq]
  refine maintains_bind h.mono (maintains_read _) fun deleting => ?_
  refine maintains_bind h.mono (maintains_when _ h.delete) fun _ => ?_
  refine maintains_bind h.mono (h.setCondition _) fun _ => ?_
  exact maintains_bind h.mono (h.publishStatus name) fun _ => maintains_pure _

theorem finalize (h : Calm rule inv) : Maintains rule inv (finalize context name) := by
  refine maintains_bind h.mono (maintains_read _) fun policy => ?_
  cases policy with
  | orphan => exact h.release name
  | delete =>
    refine maintains_bind h.mono h.observe fun observed => ?_
    cases observed.present with
    | true => exact h.tearDown context name
    | false => exact h.release name

theorem noteFailure (h : Calm rule inv) (result : Except ReconcileError Action) :
    Maintains rule inv (noteFailure context result) := by
  cases result with
  | ok _ => exact maintains_pure ()
  | error e => exact h.setCondition _

theorem reconcileDeleted (h : Calm rule inv) :
    Maintains rule inv (reconcileDeleted context name) := by
  refine maintains_bind h.mono (maintains_read _) fun kept => ?_
  cases kept with
  | false => exact maintains_pure _
  | true =>
    refine maintains_bind h.mono (maintains_attempt (h.finalize context name)) fun result => ?_
    cases result with
    | ok action => exact maintains_pure action
    | error e =>
      refine maintains_bind h.mono (h.noteFailure context _) fun _ => ?_
      refine maintains_bind h.mono (maintains_attempt (h.publishStatus name)) fun _ => ?_
      exact maintains_ofResult _

/-- Where a creation keeps the invariant too, so does what follows an observation. -/
theorem branch_of_create (h : Calm rule inv)
    (hc : ∀ s r, inv s r → rule (.create r) (fun s o => inv s o.resource) s) :
    Maintains rule inv (branch context name) := by
  refine maintains_bind h.mono h.observe fun observed => ?_
  cases observed.present with
  | true => exact h.syncPresent context name observed
  | false =>
    refine maintains_bind h.mono hc fun created => ?_
    refine maintains_bind h.mono (h.storeDesired name) fun _ => ?_
    refine maintains_bind h.mono (h.publishDetails _) fun _ => ?_
    exact maintains_bind h.mono (h.setCondition _) fun _ => maintains_pure _

theorem sync (h : Calm rule inv) (hb : Maintains rule inv (branch context name)) :
    Maintains rule inv (sync context name) := by
  rw [sync_eq]
  refine maintains_bind h.mono h.resolveReferences fun resolved => ?_
  refine maintains_bind h.mono (maintains_when _ (h.storeDesired name)) fun _ => ?_
  cases resolved.pending.isEmpty with
  | false => exact maintains_bind h.mono (h.setCondition _) fun _ => maintains_pure _
  | true => exact hb

theorem reconcileWanted (h : Calm rule inv) (hb : Maintains rule inv (branch context name)) :
    Maintains rule inv (reconcileWanted context name) := by
  rw [reconcileWanted_eq]
  refine maintains_bind h.mono (maintains_read _) fun kept => ?_
  refine maintains_bind h.mono (maintains_when _ (h.writes fun _ _ e => by cases e; trivial))
    fun _ => ?_
  refine maintains_bind h.mono (maintains_attempt (h.sync context name hb)) fun result => ?_
  refine maintains_bind h.mono (h.noteFailure context result) fun _ => ?_
  refine maintains_bind h.mono (maintains_attempt (h.publishStatus name)) fun status => ?_
  refine maintains_bind h.mono (maintains_ofResult result) fun action => ?_
  exact maintains_bind h.mono (maintains_ofResult status) fun _ => maintains_pure _

theorem reconcile (h : Calm rule inv) (hb : ∀ name, Maintains rule inv (branch context name)) :
    Maintains rule inv (reconcile context) := by
  refine maintains_bind h.mono (maintains_read _) fun name => ?_
  refine maintains_bind h.mono (maintains_read _) fun deleted => ?_
  cases deleted with
  | true => exact h.reconcileDeleted context name
  | false => exact h.reconcileWanted context name (hb name)

/-- **A run keeps an invariant** that every call but a creation keeps, and that `branch` keeps.
Only the record of the outcome is left after it. -/
theorem run (h : Calm rule inv) (hb : ∀ name, Maintains rule inv (branch context name))
    {post : σ → Except ReconcileError Action → Prop} {s : σ} {r : Managed k} (hi : inv s r)
    (hpost : ∀ s r result, inv s r →
      rule (.record (Except.isOk result)) (fun s _ => post s result) s) :
    (Reconcile.run context r).Ensures rule post s := by
  simp only [Reconcile.run, Dialogue.ensures_bind]
  exact (h.reconcile context hb s r hi).mono h.mono fun s out hi => hpost s out.2 out.1 hi

end Calm

end Reconcile

end ResourceOperator
