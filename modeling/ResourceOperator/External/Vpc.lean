import ResourceOperator.External.Basic
import ResourceOperator.Vpc.Mapping

/-!
# Operations on networks

A network is found under the external name of its declaration. Without one, or when the cloud does
not know it, it does not exist.

Model of `VpcClient`: `observe`, `create`, `update` and `delete`.
-/

namespace ResourceOperator.Vpc

/-- The resource after its network has been seen. -/
def recordRemote (now : String) (r : Managed .vpc) (v : Remote) (p : Parameters) : Managed .vpc :=
  ((r.setParameters p).setObservation v.observation).setCondition (v.status.readiness now)

/-- Looks at the network. -/
def observe (now : String) (r : Managed .vpc) : Dialogue Outside (Outcome .vpc Observed) :=
  match r.externalName with
  | none => pure (.ok .absent r)
  | some id => do
    match ← Outside.cloud (.network (.getVpc id)) with
    | .error e =>
      if e.isNotFound then pure (.ok .absent r)
      else pure (.fail (.cloud "cannot get VPC" e) r)
    | .ok v =>
      let filled := Parameters.lateInitialize r.spec.forProvider v
      pure (.ok ⟨true, filled.value.isUpToDate v, filled.changed, []⟩
        (recordRemote now r v filled.value))

/-- Creates the network. -/
def create (now : String) (r : Managed .vpc) : Dialogue Outside (Outcome .vpc Created) := do
  match ← Outside.cloud (.network (.createVpc (Parameters.request r.spec.forProvider))) with
  | .error e => pure (.fail (.cloud "cannot create VPC" e) r)
  | .ok v => pure (.ok ⟨[]⟩ ((r.setExternalName v.id).setCondition (.creating now)))

/-- Updates what disagrees. -/
def update (r : Managed .vpc) : Dialogue Outside (Outcome .vpc Unit) :=
  match r.externalName with
  | none => pure (.ok () r)
  | some id => do
    match ← Outside.cloud (.network (.getVpc id)) with
    | .error e => pure (.fail (.cloud "cannot get VPC" e) r)
    | .ok v =>
      let patch := Parameters.patch r.spec.forProvider v
      if patch.isEmpty then pure (.ok () r)
      else do
        match ← Outside.cloud (.network (.updateVpc id patch)) with
        | .error e => pure (.fail (.cloud "cannot update VPC" e) r)
        | .ok _ => pure (.ok () r)

/-- Deletes the network; one that is gone is no failure. -/
def delete (now : String) (r : Managed .vpc) : Dialogue Outside (Outcome .vpc Unit) :=
  let r := r.setCondition (.deleting now)
  match r.externalName with
  | none => pure (.ok () r)
  | some id => do
    match ← Outside.cloud (.network (.deleteVpc id)) with
    | .error e =>
      if e.isNotFound then pure (.ok () r) else pure (.fail (.cloud "cannot delete VPC" e) r)
    | .ok () => pure (.ok () r)

/-- The operations on networks. -/
def external : External .vpc where
  resolveReferences := External.resolveNothing
  observe := observe
  create := create
  update := update
  delete := delete

end ResourceOperator.Vpc
