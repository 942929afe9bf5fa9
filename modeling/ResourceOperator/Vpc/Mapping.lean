import ResourceOperator.Fill
import ResourceOperator.Vpc.Desired
import ResourceOperator.Vpc.Remote

/-!
# Declared and remote networks

From a declared network to the request that creates it, and from a remote network to what the status
records, to the desired state that would produce it, and to the update that makes it agree.

The functions are `generate_prototype` (`Parameters.request`), `generate_observation`,
`generate_parameters`, `late_initialize`, `changed_fields`, `drifted_immutable_fields`,
`is_up_to_date` and `build_patch`.
-/

namespace ResourceOperator.Vpc

open Cloud

/-- A field that can change after creation. -/
inductive Field where
  | name
  deriving DecidableEq, Repr

/-- A field that is fixed at creation. -/
inductive FixedField where
  | classicAccess
  | resourceGroup
  deriving DecidableEq, Repr

/-- The name of a fixed field in a declaration. -/
def FixedField.fieldName : FixedField → String
  | .classicAccess => "classicAccess"
  | .resourceGroup => "resourceGroup"

/-- The request that creates the declared network. -/
def Parameters.request (p : Parameters) : Request :=
  ⟨p.name.filter fun n => !n.isEmpty, p.addressPrefixManagement.map AddressPrefixManagement.name,
    p.classicAccess, p.resourceGroup.map ObjectName.ofIdentity⟩

/-- What the status records of a remote network. -/
def Remote.observation (v : Remote) : Observation :=
  { id := v.id
    crn := v.crn
    href := v.href
    status := v.status.name
    createdAt := v.createdAt
    classicAccess := v.classicAccess
    defaultNetworkAcl := v.defaultNetworkAcl.map ObjectReference.id
    defaultRoutingTable := v.defaultRoutingTable.map ObjectReference.id
    defaultSecurityGroup := v.defaultSecurityGroup.map ObjectReference.id
    resourceGroup := v.resourceGroup.map ObjectReference.id }

/-- The desired state that would produce a remote network. -/
def Remote.parameters (v : Remote) : Parameters :=
  { name := nonEmpty v.name
    addressPrefixManagement := none
    classicAccess := some v.classicAccess
    resourceGroup := v.resourceGroup.map ObjectReference.identity }

namespace Parameters

/-- Fills unset fields from a remote network. -/
def lateInitialize (p : Parameters) (v : Remote) : Filled Parameters :=
  let name := Filled.ofText p.name v.name
  let classic := Filled.ofOption p.classicAccess (some v.classicAccess)
  let group := Filled.ofIdentity p.resourceGroup v.resourceGroup
  ⟨{ p with name := name.value, classicAccess := classic.value, resourceGroup := group.value },
    name.changed || classic.changed || group.changed⟩

/-- The fields that can change and disagree with a remote network. -/
def changedFields (p : Parameters) (v : Remote) : List Field :=
  if unsetOrEqual p.name v.parameters.name then [] else [.name]

/-- The fixed fields that no longer agree; they are reported and never updated. -/
def driftedFields (p : Parameters) (v : Remote) : List FixedField :=
  let actual := v.parameters
  (if p.classicAccess.isSome && p.classicAccess != actual.classicAccess then [.classicAccess]
    else []) ++
  (if p.resourceGroup.isSome && !Identity.same p.resourceGroup actual.resourceGroup then
    [.resourceGroup] else [])

/-- No field that can change disagrees. -/
def isUpToDate (p : Parameters) (v : Remote) : Bool :=
  (p.changedFields v).isEmpty

/-- The update of the fields that disagree. -/
def patch (p : Parameters) (v : Remote) : Table Json :=
  Table.ofList ((p.changedFields v).flatMap fun
    | .name => Json.member "name" (p.name.map .string))

end Parameters

end ResourceOperator.Vpc
