import ResourceOperator.Failure
import ResourceOperator.Fill
import ResourceOperator.Net.Block
import ResourceOperator.Subnet.Desired
import ResourceOperator.Subnet.Remote

/-!
# Declared and remote subnets

From a declared subnet to the request that creates it, and from a remote subnet to what the status
records, to the desired state that would produce it, and to the update that makes it agree. Only the
way of sizing that the declaration uses is ever read or filled in.

The functions are `request_identity` (`requestName`), `generate_prototype` (`request`),
`generate_observation`, `generate_parameters`, `late_initialize`, `changed_fields`,
`drifted_immutable_fields`, `is_up_to_date`, `identity_patch` (`patchIdentity`) and `build_patch`.
-/

namespace ResourceOperator.Subnet

open Cloud

/-- A field that can change after creation. -/
inductive Field where
  | name
  | networkAcl
  | publicGateway
  | routingTable
  deriving DecidableEq, Repr

/-- A field that is fixed at creation. -/
inductive FixedField where
  | ipVersion
  | resourceGroup
  | vpc
  | totalIpv4AddressCount
  | ipv4CidrBlock
  | zone
  deriving DecidableEq, Repr

/-- The name of a field in an update. -/
def Field.wireName : Field → String
  | .name => "name"
  | .networkAcl => "network_acl"
  | .publicGateway => "public_gateway"
  | .routingTable => "routing_table"

/-- The name of a fixed field in a declaration. -/
def FixedField.fieldName : FixedField → String
  | .ipVersion => "ipVersion"
  | .resourceGroup => "resourceGroup"
  | .vpc => "vpc"
  | .totalIpv4AddressCount => "totalIpv4AddressCount"
  | .ipv4CidrBlock => "ipv4CidrBlock"
  | .zone => "zone"

/-- A number of addresses that a subnet can have: it is positive, and has no bit in common with the
number before it. Counts are signed words of 64 bits. -/
def isPowerOfTwo (n : Int) : Bool :=
  let word := Int64.ofInt n
  0 < word && word &&& (word - 1) == 0

/-- An identity as a request carries it, unless it is empty. -/
def requestName (i : Option Identity) : Option ObjectName :=
  (i.filter fun i => !i.isEmpty).map ObjectName.ofIdentity

/-- A text, unless it is unset or empty. -/
def requestText (s : Option String) : Option String :=
  s.filter fun s => !s.isEmpty

/-- What the status records of a remote subnet. -/
def Remote.observation (s : Remote) : Observation :=
  { id := s.id
    crn := s.crn
    href := s.href
    status := s.status.name
    createdAt := s.createdAt
    ipv4CidrBlock := s.ipv4CidrBlock
    availableIpv4AddressCount := s.availableIpv4AddressCount
    totalIpv4AddressCount := s.totalIpv4AddressCount
    zone := s.zone.name
    vpc := s.vpc.id }

/-- The desired state, sized in a given way, that would produce a remote subnet. -/
def Remote.parameters (s : Remote) (branch : Branch) : Parameters :=
  { common :=
      { name := nonEmpty s.name
        ipVersion := nonEmpty s.ipVersion
        networkAcl := s.networkAcl.map ObjectReference.identity
        publicGateway := s.publicGateway.map ObjectReference.identity
        resourceGroup := s.resourceGroup.map ObjectReference.identity
        routingTable := s.routingTable.map ObjectReference.identity
        vpc := (nonEmpty s.vpc.id).map Identity.byId
        vpcRef := none
        vpcSelector := none }
    sizing := match branch with
      | .byTotalCount => .byTotalCount s.totalIpv4AddressCount s.zone.name
      | .byCidr => .byCidr s.ipv4CidrBlock (nonEmpty s.zone.name) }

/-- Fills the unset common fields from a remote subnet. -/
def Common.lateInitialize (c : Common) (s : Remote) : Filled Common :=
  let name := Filled.ofText c.name s.name
  let ipVersion := Filled.ofText c.ipVersion s.ipVersion
  let acl := Filled.ofIdentity c.networkAcl s.networkAcl
  let gateway := Filled.ofIdentity c.publicGateway s.publicGateway
  let group := Filled.ofIdentity c.resourceGroup s.resourceGroup
  let table := Filled.ofIdentity c.routingTable s.routingTable
  let vpc := Filled.ofIdentity c.vpc (if s.vpc.id.isEmpty then none else some s.vpc)
  ⟨{ c with
      name := name.value
      ipVersion := ipVersion.value
      networkAcl := acl.value
      publicGateway := gateway.value
      resourceGroup := group.value
      routingTable := table.value
      vpc := vpc.value },
    name.changed || ipVersion.changed || acl.changed || gateway.changed || group.changed ||
      table.changed || vpc.changed⟩

/-- Fills the unset fields of the way of sizing that is used. -/
def Sizing.lateInitialize (sizing : Sizing) (s : Remote) : Filled Sizing :=
  match sizing with
  | .byTotalCount count zone =>
    let count' : Filled Int :=
      if count = 0 ∧ 0 < s.totalIpv4AddressCount then ⟨s.totalIpv4AddressCount, true⟩
      else Filled.keep count
    let zone' := Filled.ofRequired zone s.zone.name
    ⟨.byTotalCount count'.value zone'.value, count'.changed || zone'.changed⟩
  | .byCidr block zone =>
    let block' := Filled.ofRequired block s.ipv4CidrBlock
    let zone' := Filled.ofText zone s.zone.name
    ⟨.byCidr block'.value zone'.value, block'.changed || zone'.changed⟩

/-- Fixed fields that a way of sizing has of its own, and that no longer agree. -/
def Sizing.drifted : Sizing → Sizing → List FixedField
  | .byTotalCount count zone, .byTotalCount actualCount actualZone =>
    (if count != 0 && count != actualCount then [.totalIpv4AddressCount] else []) ++
    (if unsetOrEqual (some zone) (some actualZone) then [] else [.zone])
  | .byCidr block zone, .byCidr actualBlock actualZone =>
    (if unsetOrEqual (some block) (some actualBlock) then [] else [.ipv4CidrBlock]) ++
    (if unsetOrEqual zone actualZone then [] else [.zone])
  | _, _ => []

/-- What a request says of the common fields, with the name of the network. -/
def Common.request (c : Common) (vpc : ObjectName) : RequestCommon :=
  { name := requestText c.name
    ipVersion := requestText c.ipVersion
    networkAcl := requestName c.networkAcl
    publicGateway := requestName c.publicGateway
    resourceGroup := requestName c.resourceGroup
    routingTable := requestName c.routingTable
    vpc := vpc }

/-- An identity as an update carries it: by id, or an empty object that detaches. -/
def patchIdentity (i : Option Identity) : Json :=
  .object (Json.member "id" ((Identity.canonicalId? i).map .string))

namespace Parameters

/-- The request that creates the declared subnet, given how blocks are read. It needs a network, and
an address count that is a power of two with a zone, or a block that can be read. -/
def requestWith (readBlock : String → Except Net.Block.Error Net.Block) (p : Parameters) :
    Except EngineError Request :=
  match requestName p.common.vpc with
  | none =>
    .error (.invalidConfiguration "subnet has no VPC; set vpc, vpcRef or vpcSelector")
  | some vpc =>
    let common := p.common.request vpc
    match p.sizing with
    | .byTotalCount count zone =>
      if !isPowerOfTwo count then
        .error (.invalidConfiguration
          ("totalIpv4AddressCount must be a power of two, got " ++ toString count))
      else if zone.isEmpty then
        .error (.invalidConfiguration
          "zone is required when sizing a subnet by address count")
      else .ok (.byTotalCount common count ⟨zone⟩)
    | .byCidr block zone =>
      match readBlock block with
      | .error e =>
        .error (.invalidConfiguration
          ("invalid ipv4CidrBlock " ++ block ++ ": " ++ e.message))
      | .ok _ => .ok (.byCidr common block ((requestText zone).map ZoneName.mk))

/-- The request that creates the declared subnet. -/
def request (p : Parameters) : Except EngineError Request :=
  p.requestWith Net.Block.parse

/-- Fills unset fields from a remote subnet. -/
def lateInitialize (p : Parameters) (s : Remote) : Filled Parameters :=
  let common := p.common.lateInitialize s
  let sizing := p.sizing.lateInitialize s
  ⟨⟨common.value, sizing.value⟩, common.changed || sizing.changed⟩

/-- The fields that can change and disagree with a remote subnet. -/
def changedFields (p : Parameters) (s : Remote) : List Field :=
  let desired := p.common
  let actual := (s.parameters p.branch).common
  (if unsetOrEqual desired.name actual.name then [] else [.name]) ++
  (if Identity.same desired.networkAcl actual.networkAcl then [] else [.networkAcl]) ++
  (if Identity.same desired.publicGateway actual.publicGateway then [] else [.publicGateway]) ++
  (if Identity.same desired.routingTable actual.routingTable then [] else [.routingTable])

/-- The fixed fields that no longer agree; they are reported and never updated. -/
def driftedFields (p : Parameters) (s : Remote) : List FixedField :=
  let desired := p.common
  let actual := s.parameters p.branch
  (if unsetOrEqual desired.ipVersion actual.common.ipVersion then [] else [.ipVersion]) ++
  (if desired.resourceGroup.isSome &&
      !Identity.same desired.resourceGroup actual.common.resourceGroup then [.resourceGroup]
    else []) ++
  (if desired.vpc.isSome && !Identity.same desired.vpc actual.common.vpc then [.vpc] else []) ++
  Sizing.drifted p.sizing actual.sizing

/-- No field that can change disagrees. -/
def isUpToDate (p : Parameters) (s : Remote) : Bool :=
  (p.changedFields s).isEmpty

/-- What an update says about a field. -/
def patchField (p : Parameters) (f : Field) : Option Json :=
  match f with
  | .name => p.common.name.map .string
  | .networkAcl => some (patchIdentity p.common.networkAcl)
  | .publicGateway => some (patchIdentity p.common.publicGateway)
  | .routingTable => some (patchIdentity p.common.routingTable)

/-- The update of the fields that disagree. -/
def patch (p : Parameters) (s : Remote) : Table Json :=
  Table.ofList ((p.changedFields s).flatMap fun f => Json.member f.wireName (p.patchField f))

end Parameters

end ResourceOperator.Subnet
