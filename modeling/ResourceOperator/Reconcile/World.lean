import ResourceOperator.External.ResourceInstance
import ResourceOperator.External.ResourceKey
import ResourceOperator.External.Subnet
import ResourceOperator.External.Topic
import ResourceOperator.External.Vpc
import ResourceOperator.Reconcile.Basic

/-!
# Reconciliation in its surroundings

`World` joins everything that a reconciliation with the operations of its kind can ask: the cloud
and other declared objects, the writes to the cluster, and the record of outcomes. `reconcile` is
the reconciliation of `ResourceOperator.Reconcile` with the operations carried out.

`External.ofKind` and `Kind.referenced` are what `main` puts together for each kind.
-/

namespace ResourceOperator

/-- The operations on the remote objects of a kind. -/
def External.ofKind : (k : Kind) → External k
  | .vpc => Vpc.external
  | .subnet => Subnet.external
  | .resourceInstance => ResourceInstance.external
  | .resourceKey => ResourceKey.external
  | .topic => Topic.external

/-- The kind whose objects the references of a kind lead to. -/
def Kind.referenced : Kind → Option Kind
  | .vpc => none
  | .subnet => some .vpc
  | .resourceInstance => none
  | .resourceKey => some .resourceInstance
  | .topic => some .resourceKey

/-- A question to the surroundings of a reconciliation. -/
inductive WorldCall where
  | outside (call : OutsideCall)
  | cluster (call : Cluster.Call)
  | record (succeeded : Bool)

/-- The surroundings of a reconciliation. -/
def World : Interface where
  Question := WorldCall
  Answer
    | .outside c => Outside.Answer c
    | .cluster _ => Except ReconcileError Unit
    | .record _ => Unit

namespace World

variable {k : Kind} {α : Type}

/-- A dialogue with the outside as a dialogue with the surroundings. -/
def ofOutside (d : Dialogue Outside α) : Dialogue World α :=
  d.forward fun q => Dialogue.call (I := World) (.outside q)

/-- Carries out what a reconciliation asks for. -/
def carryOut (external : External k) (now : String) :
    (q : LifecycleCall k) → Dialogue World ((Lifecycle k).Answer q)
  | .resolveReferences r => ofOutside (external.resolveReferences r)
  | .observe r => ofOutside (external.observe now r)
  | .create r => ofOutside (external.create now r)
  | .update r => ofOutside (external.update r)
  | .delete r => ofOutside (external.delete now r)
  | .cluster c => Dialogue.call (I := World) (.cluster c)
  | .record succeeded => Dialogue.call (I := World) (.record succeeded)

/-- Reconciles a resource with the operations of its kind. -/
def reconcile (context : Reconcile.Context) (r : Managed k) :
    Dialogue World (Except ReconcileError Action) :=
  (Reconcile.run context r).forward (carryOut (External.ofKind k) context.now)

end World

end ResourceOperator
