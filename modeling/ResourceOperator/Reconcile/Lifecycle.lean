import ResourceOperator.Cluster.Call
import ResourceOperator.External.Basic

/-!
# What a reconciliation asks for

A reconciliation runs operations on the remote object, writes to the cluster, and records its
outcome once. `Lifecycle k` is that interface for a resource of kind `k`. An operation may change
the resource in any way, so a `Task` passes the resource along and keeps it when it fails.

The operations are those of `ExternalClient`, the writes those of `KubeClient`.
-/

namespace ResourceOperator

/-- An operation of a reconciliation on a resource, a write to the cluster, or the record of the
outcome. -/
inductive LifecycleCall (k : Kind) where
  | resolveReferences (resource : Managed k)
  | observe (resource : Managed k)
  | create (resource : Managed k)
  | update (resource : Managed k)
  | delete (resource : Managed k)
  | cluster (call : Cluster.Call)
  | record (succeeded : Bool)

/-- What a reconciliation of a resource of kind `k` asks for. -/
def Lifecycle (k : Kind) : Interface where
  Question := LifecycleCall k
  Answer
    | .resolveReferences _ => Outcome k Resolved
    | .observe _ => Outcome k Observed
    | .create _ => Outcome k Created
    | .update _ => Outcome k Unit
    | .delete _ => Outcome k Unit
    | .cluster _ => Except ReconcileError Unit
    | .record _ => Unit

/-- A part of a reconciliation: it works on the resource and may fail. -/
def Task (k : Kind) (α : Type) : Type :=
  Managed k → Dialogue (Lifecycle k) (Except ReconcileError α × Managed k)

namespace Task

variable {k : Kind} {α β : Type}

/-- Goes on with another task, unless the first one failed. -/
def bind (t : Task k α) (f : α → Task k β) : Task k β := fun r =>
  (t r).bind fun
    | (.ok a, r) => f a r
    | (.error e, r) => .done (.error e, r)

instance : Monad (Task k) where
  pure a := fun r => .done (.ok a, r)
  bind := bind

/-- An operation on the remote object. -/
def ofOutcome (ask : Managed k → Dialogue (Lifecycle k) (Outcome k α)) : Task k α := fun r =>
  (ask r).bind fun outcome => .done (outcome.result.mapError .engine, outcome.resource)

/-- Resolves the references. -/
def resolveReferences : Task k Resolved :=
  ofOutcome fun r => Dialogue.call (I := Lifecycle k) (.resolveReferences r)

/-- Looks at the remote object. -/
def observe : Task k Observed :=
  ofOutcome fun r => Dialogue.call (I := Lifecycle k) (.observe r)

/-- Creates the remote object. -/
def create : Task k Created :=
  ofOutcome fun r => Dialogue.call (I := Lifecycle k) (.create r)

/-- Updates the remote object. -/
def update : Task k Unit :=
  ofOutcome fun r => Dialogue.call (I := Lifecycle k) (.update r)

/-- Deletes the remote object. -/
def delete : Task k Unit :=
  ofOutcome fun r => Dialogue.call (I := Lifecycle k) (.delete r)

/-- Writes to the cluster what the resource determines, if anything. -/
def write (call : Managed k → Option Cluster.Call) : Task k Unit := fun r =>
  match call r with
  | none => .done (.ok (), r)
  | some c => .ask (.cluster c) fun answer => .done (answer, r)

/-- Changes the resource. -/
def modify (f : Managed k → Managed k) : Task k Unit := fun r =>
  .done (.ok (), f r)

/-- Reads off the resource. -/
def read (f : Managed k → α) : Task k α := fun r =>
  .done (.ok (f r), r)

/-- Fails as the result says, or goes on with its value. -/
def ofResult (result : Except ReconcileError α) : Task k α := fun r =>
  .done (result, r)

/-- The result of a task that may fail, as a value. -/
def attempt (t : Task k α) : Task k (Except ReconcileError α) := fun r =>
  (t r).bind fun (result, r) => .done (.ok result, r)

end Task

end ResourceOperator
