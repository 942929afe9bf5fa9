import ResourceOperator.Cloud.NetworkState
import ResourceOperator.Cloud.ObjectReference

/-!
# Networks in the cloud

A network as the cloud reports it, and the request that creates one.

The records are `Vpc` and `VpcPrototype`.
-/

namespace ResourceOperator.Vpc

open Json.Reader Cloud

/-- A network as the cloud reports it. -/
structure Remote where
  id : String
  crn : String
  href : String
  name : String
  classicAccess : Bool
  createdAt : Option String
  status : NetworkState
  resourceGroup : Option ObjectReference
  defaultNetworkAcl : Option ObjectReference
  defaultRoutingTable : Option ObjectReference
  defaultSecurityGroup : Option ObjectReference
  deriving DecidableEq, Repr

/-- What a new network is to be. -/
structure Request where
  name : Option String
  addressPrefixManagement : Option String
  classicAccess : Option Bool
  resourceGroup : Option ObjectName
  deriving DecidableEq, Repr

/-- Reads a reported network. -/
def Remote.decode {D : Type} [Json.Document D] : D → Option Remote :=
  read do
    let id ← required "id" Json.text
    let crn ← defaulted "crn" "" Json.text
    let href ← defaulted "href" "" Json.text
    let name ← defaulted "name" "" Json.text
    let classic ← defaulted "classic_access" false Json.flag
    let createdAt ← lastOptional "created_at" Json.text
    let status ← defaulted "status" .unknown NetworkState.decode
    let group ← lastOptional "resource_group" ObjectReference.decode
    let acl ← lastOptional "default_network_acl" ObjectReference.decode
    let table ← lastOptional "default_routing_table" ObjectReference.decode
    let security ← lastOptional "default_security_group" ObjectReference.decode
    pure ⟨id, crn, href, name, classic, createdAt, status, group, acl, table, security⟩

/-- Writes a reported network. -/
def Remote.encode (v : Remote) : Json :=
  .object (
    [("classic_access", .bool v.classicAccess)] ++
    Json.member "created_at" (v.createdAt.map .string) ++
    [("crn", .string v.crn)] ++
    Json.member "default_network_acl" (v.defaultNetworkAcl.map ObjectReference.encode) ++
    Json.member "default_routing_table" (v.defaultRoutingTable.map ObjectReference.encode) ++
    Json.member "default_security_group" (v.defaultSecurityGroup.map ObjectReference.encode) ++
    [("href", .string v.href), ("id", .string v.id), ("name", .string v.name)] ++
    Json.member "resource_group" (v.resourceGroup.map ObjectReference.encode) ++
    [("status", v.status.encode)])

/-- Reads a request. -/
def Request.decode : Json → Option Request :=
  read do
    let name ← optional "name" Json.text
    let management ← optional "address_prefix_management" Json.text
    let classic ← optional "classic_access" Json.flag
    let group ← optional "resource_group" ObjectName.decode
    pure ⟨name, management, classic, group⟩

/-- Writes a request. -/
def Request.encode (r : Request) : Json :=
  .object (
    Json.member "address_prefix_management" (r.addressPrefixManagement.map .string) ++
    Json.member "classic_access" (r.classicAccess.map .bool) ++
    Json.member "name" (r.name.map .string) ++
    Json.member "resource_group" (r.resourceGroup.map ObjectName.encode))

end ResourceOperator.Vpc
