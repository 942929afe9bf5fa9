import ResourceOperator.Identity

/-!
# Networks as declared

What a declaration says about a network (`Parameters`), and what its status records of the network
in the cloud (`Observation`).

They are `VPCParameters`, with `AddressPrefixManagement`, and `VPCObservation`.
-/

namespace ResourceOperator.Vpc

open Json.Reader

/-- Who manages the address prefixes of a network. -/
inductive AddressPrefixManagement where
  | auto
  | manual
  deriving DecidableEq, Repr

/-- The desired state of a network. -/
structure Parameters where
  name : Option String
  addressPrefixManagement : Option AddressPrefixManagement
  classicAccess : Option Bool
  resourceGroup : Option Identity
  deriving DecidableEq, Repr

/-- The observed state of a network. -/
structure Observation where
  id : String
  crn : String
  href : String
  status : String
  createdAt : Option String
  classicAccess : Bool
  defaultNetworkAcl : Option String
  defaultRoutingTable : Option String
  defaultSecurityGroup : Option String
  resourceGroup : Option String
  deriving DecidableEq, Repr

namespace AddressPrefixManagement

/-- The name of a mode. -/
def name : AddressPrefixManagement → String
  | .auto => "auto"
  | .manual => "manual"

/-- The mode with this name. -/
def named : String → Option AddressPrefixManagement
  | "auto" => some .auto
  | "manual" => some .manual
  | _ => none

@[simp] theorem named_name (m : AddressPrefixManagement) : named m.name = some m := by
  cases m <;> rfl

/-- Writes a mode. -/
def encode (m : AddressPrefixManagement) : Json :=
  .string m.name

end AddressPrefixManagement

/-- Reads a desired state. -/
def Parameters.decode : Json → Option Parameters :=
  read do
    let name ← optional "name" Json.text
    let management ← optional "addressPrefixManagement" (Json.choice AddressPrefixManagement.named)
    let classic ← optional "classicAccess" Json.flag
    let group ← optional "resourceGroup" Identity.decode
    pure ⟨name, management, classic, group⟩

/-- Writes a desired state. -/
def Parameters.encode (p : Parameters) : Json :=
  .object (
    Json.member "addressPrefixManagement"
      (p.addressPrefixManagement.map AddressPrefixManagement.encode) ++
    Json.member "classicAccess" (p.classicAccess.map .bool) ++
    Json.member "name" (p.name.map .string) ++
    Json.member "resourceGroup" (p.resourceGroup.map Identity.encode))

/-- Reads an observed state. -/
def Observation.decode : Json → Option Observation :=
  read do
    let id ← required "id" Json.text
    let crn ← required "crn" Json.text
    let href ← required "href" Json.text
    let status ← required "status" Json.text
    let createdAt ← optional "createdAt" Json.text
    let classic ← required "classicAccess" Json.flag
    let acl ← optional "defaultNetworkAcl" Json.text
    let table ← optional "defaultRoutingTable" Json.text
    let security ← optional "defaultSecurityGroup" Json.text
    let group ← optional "resourceGroup" Json.text
    pure ⟨id, crn, href, status, createdAt, classic, acl, table, security, group⟩

/-- Writes an observed state. -/
def Observation.encode (o : Observation) : Json :=
  .object (
    [("classicAccess", .bool o.classicAccess)] ++
    Json.member "createdAt" (o.createdAt.map .string) ++
    [("crn", .string o.crn)] ++
    Json.member "defaultNetworkAcl" (o.defaultNetworkAcl.map .string) ++
    Json.member "defaultRoutingTable" (o.defaultRoutingTable.map .string) ++
    Json.member "defaultSecurityGroup" (o.defaultSecurityGroup.map .string) ++
    [("href", .string o.href), ("id", .string o.id)] ++
    Json.member "resourceGroup" (o.resourceGroup.map .string) ++
    [("status", .string o.status)])

end ResourceOperator.Vpc
