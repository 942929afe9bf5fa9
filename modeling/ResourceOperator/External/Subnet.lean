import ResourceOperator.External.Basic
import ResourceOperator.Subnet.Mapping

/-!
# Operations on subnets

A subnet names its network directly, or through a declared network whose external name it takes. It
is found under its own external name.

Model of `SubnetClient`: `resolve_references`, `observe`, `create`, `update` and `delete`.
-/

namespace ResourceOperator.Subnet

/-- The value that the network of a subnet has now. -/
def currentVpc (p : Parameters) : String :=
  (p.common.vpc.map Identity.canonicalId).getD ""

/-- The network as a field to resolve. -/
def resolutionRequest (p : Parameters) : Resolution.Request .vpc :=
  { field := "vpc"
    current := currentVpc p
    reference := p.common.vpcRef
    selector := p.common.vpcSelector
    extract := Managed.externalNameText }

/-- Takes over a resolved network. -/
def applyResolution (p : Parameters) (found : Resolution) : Filled Parameters :=
  let vpcChanged := found.value != currentVpc p
  let refChanged := found.reference != p.common.vpcRef
  ⟨{ p with
      common :=
        { p.common with
          vpc := if vpcChanged then some (.byId found.value) else p.common.vpc
          vpcRef := found.reference } },
    vpcChanged || refChanged⟩

/-- Finds the network that the subnet belongs to. -/
def resolveReferences (r : Managed .subnet) : Dialogue Outside (Outcome .subnet Resolved) := do
  match ← Outside.ofLookup (Resolution.resolve (resolutionRequest r.spec.forProvider)) with
  | .error e => pure (.fail e r)
  | .ok found =>
    if found.isPending then pure (.ok ⟨false, ["vpc"]⟩ r)
    else
      let applied := applyResolution r.spec.forProvider found
      pure (.ok ⟨applied.changed, []⟩ (r.setParameters applied.value))

/-- The resource after its subnet has been seen. -/
def recordRemote (now : String) (r : Managed .subnet) (s : Remote) (p : Parameters) :
    Managed .subnet :=
  ((r.setParameters p).setObservation s.observation).setCondition (s.status.readiness now)

/-- Looks at the subnet. -/
def observe (now : String) (r : Managed .subnet) : Dialogue Outside (Outcome .subnet Observed) :=
  match r.externalName with
  | none => pure (.ok .absent r)
  | some id => do
    match ← Outside.cloud (.network (.getSubnet id)) with
    | .error e =>
      if e.isNotFound then pure (.ok .absent r)
      else pure (.fail (.cloud "cannot get subnet" e) r)
    | .ok s =>
      let filled := Parameters.lateInitialize r.spec.forProvider s
      pure (.ok ⟨true, filled.value.isUpToDate s, filled.changed, []⟩
        (recordRemote now r s filled.value))

/-- Creates the subnet. -/
def create (now : String) (r : Managed .subnet) : Dialogue Outside (Outcome .subnet Created) :=
  match Parameters.request r.spec.forProvider with
  | .error e => pure (.fail e r)
  | .ok request => do
    match ← Outside.cloud (.network (.createSubnet request)) with
    | .error e => pure (.fail (.cloud "cannot create subnet" e) r)
    | .ok s => pure (.ok ⟨[]⟩ ((r.setExternalName s.id).setCondition (.creating now)))

/-- Updates what disagrees. -/
def update (r : Managed .subnet) : Dialogue Outside (Outcome .subnet Unit) :=
  match r.externalName with
  | none => pure (.ok () r)
  | some id => do
    match ← Outside.cloud (.network (.getSubnet id)) with
    | .error e => pure (.fail (.cloud "cannot get subnet" e) r)
    | .ok s =>
      let patch := Parameters.patch r.spec.forProvider s
      if patch.isEmpty then pure (.ok () r)
      else do
        match ← Outside.cloud (.network (.updateSubnet id patch)) with
        | .error e => pure (.fail (.cloud "cannot update subnet" e) r)
        | .ok _ => pure (.ok () r)

/-- Deletes the subnet; one that is gone is no failure. -/
def delete (now : String) (r : Managed .subnet) : Dialogue Outside (Outcome .subnet Unit) :=
  let r := r.setCondition (.deleting now)
  match r.externalName with
  | none => pure (.ok () r)
  | some id => do
    match ← Outside.cloud (.network (.deleteSubnet id)) with
    | .error e =>
      if e.isNotFound then pure (.ok () r) else pure (.fail (.cloud "cannot delete subnet" e) r)
    | .ok () => pure (.ok () r)

/-- The operations on subnets. -/
def external : External .subnet where
  resolveReferences := resolveReferences
  observe := observe
  create := create
  update := update
  delete := delete

end ResourceOperator.Subnet
