import ResourceOperator.Identity
import ResourceOperator.Reference

/-!
# Subnets as declared

A declared subnet is sized by a number of addresses or given an explicit block (`Sizing`), never
both; the rest is common to the two. The status records what was observed (`Observation`).

They are `SubnetParameters`, with `SubnetCommon`, `SubnetByTotalCount`, `SubnetByCidr` and
`SubnetBranch`, and `SubnetObservation`.
-/

namespace ResourceOperator.Subnet

open Json.Reader

/-- The desired state that does not depend on how the subnet is sized. -/
structure Common where
  name : Option String
  ipVersion : Option String
  networkAcl : Option Identity
  publicGateway : Option Identity
  resourceGroup : Option Identity
  routingTable : Option Identity
  vpc : Option Identity
  vpcRef : Option Reference
  vpcSelector : Option Selector
  deriving DecidableEq, Repr

/-- How a subnet is sized. -/
inductive Sizing where
  | byTotalCount (totalIpv4AddressCount : Int) (zone : String)
  | byCidr (ipv4CidrBlock : String) (zone : Option String)
  deriving DecidableEq, Repr

/-- Which way of sizing is meant. -/
inductive Branch where
  | byTotalCount
  | byCidr
  deriving DecidableEq, Repr

/-- The desired state of a subnet. -/
structure Parameters where
  common : Common
  sizing : Sizing
  deriving DecidableEq, Repr

/-- The observed state of a subnet. -/
structure Observation where
  id : String
  crn : String
  href : String
  status : String
  createdAt : Option String
  ipv4CidrBlock : String
  availableIpv4AddressCount : Int
  totalIpv4AddressCount : Int
  zone : String
  vpc : String
  deriving DecidableEq, Repr

/-- The way of sizing that is used. -/
def Sizing.branch : Sizing → Branch
  | .byTotalCount _ _ => .byTotalCount
  | .byCidr _ _ => .byCidr

namespace Parameters

/-- The way of sizing that a desired state uses. -/
def branch (p : Parameters) : Branch :=
  p.sizing.branch

/-- Reads the common part. -/
def readCommon : Json.Reader Json Common := do
  let name ← optional "name" Json.text
  let ipVersion ← optional "ipVersion" Json.text
  let acl ← optional "networkAcl" Identity.decode
  let gateway ← optional "publicGateway" Identity.decode
  let group ← optional "resourceGroup" Identity.decode
  let table ← optional "routingTable" Identity.decode
  let vpc ← optional "vpc" Identity.decode
  let vpcRef ← optional "vpcRef" Reference.decode
  let selector ← optional "vpcSelector" Selector.decode
  pure ⟨name, ipVersion, acl, gateway, group, table, vpc, vpcRef, selector⟩

/-- Reads a subnet sized by address count. -/
def decodeByTotalCount : Json → Option Parameters :=
  readObject do
    let common ← readCommon
    let count ← defaulted "totalIpv4AddressCount" 0 Json.int64
    let zone ← defaulted "zone" "" Json.text
    pure ⟨common, .byTotalCount count zone⟩

/-- Reads a subnet with an explicit block. -/
def decodeByCidr : Json → Option Parameters :=
  readObject do
    let common ← readCommon
    let block ← required "ipv4CidrBlock" Json.text
    let zone ← optional "zone" Json.text
    pure ⟨common, .byCidr block zone⟩

/-- Reads an object whose one member tells the way of sizing. -/
def decode : Json → Option Parameters
  | .object [(way, v)] => match way with
    | "byTotalCount" => decodeByTotalCount v
    | "byCidr" => decodeByCidr v
    | _ => none
  | _ => none

/-- Writes a desired state under its way of sizing. -/
def encode (p : Parameters) : Json :=
  let c := p.common
  let head := match p.sizing with
    | .byTotalCount _ _ => []
    | .byCidr block _ => [("ipv4CidrBlock", Json.string block)]
  let count := match p.sizing with
    | .byTotalCount count _ => [("totalIpv4AddressCount", Json.ofInt count)]
    | .byCidr _ _ => []
  let zone := match p.sizing with
    | .byTotalCount _ zone => [("zone", Json.string zone)]
    | .byCidr _ zone => Json.member "zone" (zone.map .string)
  let way := match p.sizing with
    | .byTotalCount _ _ => "byTotalCount"
    | .byCidr _ _ => "byCidr"
  .object [(way, .object (
    Json.member "ipVersion" (c.ipVersion.map .string) ++ head ++
    Json.member "name" (c.name.map .string) ++
    Json.member "networkAcl" (c.networkAcl.map Identity.encode) ++
    Json.member "publicGateway" (c.publicGateway.map Identity.encode) ++
    Json.member "resourceGroup" (c.resourceGroup.map Identity.encode) ++
    Json.member "routingTable" (c.routingTable.map Identity.encode) ++ count ++
    Json.member "vpc" (c.vpc.map Identity.encode) ++
    Json.member "vpcRef" (c.vpcRef.map Reference.encode) ++
    Json.member "vpcSelector" (c.vpcSelector.map Selector.encode) ++ zone))]

end Parameters

/-- Reads an observed state. -/
def Observation.decode : Json → Option Observation :=
  read do
    let id ← required "id" Json.text
    let crn ← required "crn" Json.text
    let href ← required "href" Json.text
    let status ← required "status" Json.text
    let createdAt ← optional "createdAt" Json.text
    let block ← required "ipv4CidrBlock" Json.text
    let available ← required "availableIpv4AddressCount" Json.int64
    let total ← required "totalIpv4AddressCount" Json.int64
    let zone ← required "zone" Json.text
    let vpc ← required "vpc" Json.text
    pure ⟨id, crn, href, status, createdAt, block, available, total, zone, vpc⟩

/-- Writes an observed state. -/
def Observation.encode (o : Observation) : Json :=
  .object (
    [("availableIpv4AddressCount", Json.ofInt o.availableIpv4AddressCount)] ++
    Json.member "createdAt" (o.createdAt.map .string) ++
    [("crn", .string o.crn), ("href", .string o.href), ("id", .string o.id),
      ("ipv4CidrBlock", .string o.ipv4CidrBlock), ("status", .string o.status),
      ("totalIpv4AddressCount", Json.ofInt o.totalIpv4AddressCount), ("vpc", .string o.vpc),
      ("zone", .string o.zone)])

end ResourceOperator.Subnet
