import ResourceOperator.Cloud.NetworkState
import ResourceOperator.Cloud.ObjectReference

/-!
# Subnets in the cloud

A subnet as the cloud reports it, and the two requests that create one: by the number of addresses,
or by an explicit block. A request carries no mark of its shape: the members it needs tell them
apart, and the first shape that can be read counts.

The records are `Subnet`, with `ZoneReference`, and `SubnetPrototype`, with `ZoneIdentity`
(`ZoneName`).
-/

namespace ResourceOperator.Subnet

open Json.Reader Cloud

/-- A zone, as an answer names it. -/
structure ZoneReference where
  name : String
  href : String
  deriving DecidableEq, Repr

/-- A zone, as a request names it. -/
structure ZoneName where
  name : String
  deriving DecidableEq, Repr

/-- A subnet as the cloud reports it. -/
structure Remote where
  id : String
  crn : String
  href : String
  name : String
  ipVersion : String
  ipv4CidrBlock : String
  availableIpv4AddressCount : Int
  totalIpv4AddressCount : Int
  status : NetworkState
  createdAt : Option String
  networkAcl : Option ObjectReference
  publicGateway : Option ObjectReference
  resourceGroup : Option ObjectReference
  routingTable : Option ObjectReference
  vpc : ObjectReference
  zone : ZoneReference
  deriving DecidableEq, Repr

/-- What every request for a subnet may say. -/
structure RequestCommon where
  name : Option String
  ipVersion : Option String
  networkAcl : Option ObjectName
  publicGateway : Option ObjectName
  resourceGroup : Option ObjectName
  routingTable : Option ObjectName
  vpc : ObjectName
  deriving DecidableEq, Repr

/-- What a new subnet is to be. -/
inductive Request where
  | byTotalCount (common : RequestCommon) (totalIpv4AddressCount : Int) (zone : ZoneName)
  | byCidr (common : RequestCommon) (ipv4CidrBlock : String) (zone : Option ZoneName)
  deriving DecidableEq, Repr

namespace ZoneReference

/-- A zone with every part empty. -/
def empty : ZoneReference :=
  ⟨"", ""⟩

/-- Reads a zone; missing parts are empty. -/
def decode {D : Type} [Json.Document D] : D → Option ZoneReference :=
  read do
    let name ← defaulted "name" "" Json.text
    let href ← defaulted "href" "" Json.text
    pure ⟨name, href⟩

/-- Writes a zone. -/
def encode (z : ZoneReference) : Json :=
  .object [("href", .string z.href), ("name", .string z.name)]

end ZoneReference

namespace ZoneName

/-- Reads the name of a zone. -/
def decode : Json → Option ZoneName :=
  read do
    let name ← required "name" Json.text
    pure ⟨name⟩

/-- Writes the name of a zone. -/
def encode (z : ZoneName) : Json :=
  .object [("name", .string z.name)]

end ZoneName

/-- Reads a reported subnet. -/
def Remote.decode {D : Type} [Json.Document D] : D → Option Remote :=
  read do
    let id ← required "id" Json.text
    let crn ← defaulted "crn" "" Json.text
    let href ← defaulted "href" "" Json.text
    let name ← defaulted "name" "" Json.text
    let ipVersion ← defaulted "ip_version" "" Json.text
    let block ← defaulted "ipv4_cidr_block" "" Json.text
    let available ← defaulted "available_ipv4_address_count" 0 Json.int64
    let total ← defaulted "total_ipv4_address_count" 0 Json.int64
    let status ← defaulted "status" .unknown NetworkState.decode
    let createdAt ← lastOptional "created_at" Json.text
    let acl ← lastOptional "network_acl" ObjectReference.decode
    let gateway ← lastOptional "public_gateway" ObjectReference.decode
    let group ← lastOptional "resource_group" ObjectReference.decode
    let table ← lastOptional "routing_table" ObjectReference.decode
    let vpc ← defaulted "vpc" .empty ObjectReference.decode
    let zone ← defaulted "zone" .empty ZoneReference.decode
    pure ⟨id, crn, href, name, ipVersion, block, available, total, status, createdAt, acl, gateway,
      group, table, vpc, zone⟩

/-- Writes a reported subnet. -/
def Remote.encode (s : Remote) : Json :=
  .object (
    [("available_ipv4_address_count", Json.ofInt s.availableIpv4AddressCount)] ++
    Json.member "created_at" (s.createdAt.map .string) ++
    [("crn", .string s.crn), ("href", .string s.href), ("id", .string s.id),
      ("ip_version", .string s.ipVersion), ("ipv4_cidr_block", .string s.ipv4CidrBlock),
      ("name", .string s.name)] ++
    Json.member "network_acl" (s.networkAcl.map ObjectReference.encode) ++
    Json.member "public_gateway" (s.publicGateway.map ObjectReference.encode) ++
    Json.member "resource_group" (s.resourceGroup.map ObjectReference.encode) ++
    Json.member "routing_table" (s.routingTable.map ObjectReference.encode) ++
    [("status", s.status.encode),
      ("total_ipv4_address_count", Json.ofInt s.totalIpv4AddressCount),
      ("vpc", s.vpc.encode), ("zone", s.zone.encode)])

namespace Request

/-- What a request says whatever its shape. -/
def common : Request → RequestCommon
  | .byTotalCount c _ _ => c
  | .byCidr c _ _ => c

/-- Reads the part that both shapes start with. -/
def readCommon : Json.Reader Json RequestCommon := do
  let name ← optional "name" Json.text
  let ipVersion ← optional "ip_version" Json.text
  let acl ← optional "network_acl" ObjectName.decode
  let gateway ← optional "public_gateway" ObjectName.decode
  let group ← optional "resource_group" ObjectName.decode
  let table ← optional "routing_table" ObjectName.decode
  let vpc ← required "vpc" ObjectName.decode
  pure ⟨name, ipVersion, acl, gateway, group, table, vpc⟩

/-- Reads a request by address count. -/
def decodeByTotalCount : Json → Option Request :=
  read do
    let common ← readCommon
    let count ← required "total_ipv4_address_count" Json.int64
    let zone ← required "zone" ZoneName.decode
    pure (.byTotalCount common count zone)

/-- Reads a request by block. -/
def decodeByCidr : Json → Option Request :=
  read do
    let common ← readCommon
    let block ← required "ipv4_cidr_block" Json.text
    let zone ← optional "zone" ZoneName.decode
    pure (.byCidr common block zone)

/-- Reads a request of the first shape that fits. -/
def decode (v : Json) : Option Request :=
  (decodeByTotalCount v).or (decodeByCidr v)

/-- Writes a request. -/
def encode (r : Request) : Json :=
  let c := r.common
  let block := match r with
    | .byTotalCount _ _ _ => []
    | .byCidr _ block _ => [("ipv4_cidr_block", Json.string block)]
  let size := match r with
    | .byTotalCount _ count zone =>
      [("total_ipv4_address_count", Json.ofInt count), ("vpc", c.vpc.encode), ("zone", zone.encode)]
    | .byCidr _ _ zone => ("vpc", c.vpc.encode) :: Json.member "zone" (zone.map ZoneName.encode)
  .object (
    Json.member "ip_version" (c.ipVersion.map .string) ++ block ++
    Json.member "name" (c.name.map .string) ++
    Json.member "network_acl" (c.networkAcl.map ObjectName.encode) ++
    Json.member "public_gateway" (c.publicGateway.map ObjectName.encode) ++
    Json.member "resource_group" (c.resourceGroup.map ObjectName.encode) ++
    Json.member "routing_table" (c.routingTable.map ObjectName.encode) ++ size)

end Request

end ResourceOperator.Subnet
