import ResourceOperator.Json.Record

/-!
# Service instances as declared

What a declaration says about an instance of a catalog service (`Parameters`), and what its status
records of the instance in the cloud (`Observation`).

They are `ResourceInstanceParameters` and `ResourceInstanceObservation`.
-/

namespace ResourceOperator.ResourceInstance

open Json.Reader

/-- The desired state of an instance. Plan and resource group are given by name. -/
structure Parameters where
  name : String
  target : String
  resourceGroupName : String
  serviceName : String
  resourcePlanName : String
  tags : Option (List String)
  allowCleanup : Option Bool
  parameters : Option Json
  entityLock : Option Bool
  deriving DecidableEq, Repr

/-- The observed state of an instance. -/
structure Observation where
  id : String
  guid : String
  crn : String
  url : String
  accountId : String
  resourceGroupId : String
  resourcePlanId : String
  targetCrn : String
  state : String
  locked : Bool
  dashboardUrl : Option String
  createdAt : Option String
  lastOperation : Option String
  deriving DecidableEq, Repr

/-- Reads a desired state. -/
def Parameters.decode : Json → Option Parameters :=
  read do
    let name ← required "name" Json.text
    let target ← required "target" Json.text
    let group ← defaulted "resourceGroupName" "" Json.text
    let service ← required "serviceName" Json.text
    let plan ← defaulted "resourcePlanName" "" Json.text
    let tags ← optional "tags" (Json.list Json.text)
    let cleanup ← optional "allowCleanup" Json.flag
    let parameters ← lastOptional "parameters" Json.any
    let lock ← optional "entityLock" Json.flag
    pure ⟨name, target, group, service, plan, tags, cleanup, parameters, lock⟩

/-- Writes a desired state. -/
def Parameters.encode (p : Parameters) : Json :=
  .object (
    Json.member "allowCleanup" (p.allowCleanup.map .bool) ++
    Json.member "entityLock" (p.entityLock.map .bool) ++
    [("name", .string p.name)] ++
    Json.member "parameters" p.parameters ++
    [("resourceGroupName", .string p.resourceGroupName),
      ("resourcePlanName", .string p.resourcePlanName), ("serviceName", .string p.serviceName)] ++
    Json.member "tags" (p.tags.map Json.ofStrings) ++
    [("target", .string p.target)])

/-- Reads an observed state. -/
def Observation.decode : Json → Option Observation :=
  read do
    let id ← required "id" Json.text
    let guid ← required "guid" Json.text
    let crn ← required "crn" Json.text
    let url ← required "url" Json.text
    let account ← required "accountId" Json.text
    let group ← required "resourceGroupId" Json.text
    let plan ← required "resourcePlanId" Json.text
    let target ← required "targetCrn" Json.text
    let state ← required "state" Json.text
    let locked ← required "locked" Json.flag
    let dashboard ← optional "dashboardUrl" Json.text
    let createdAt ← optional "createdAt" Json.text
    let operation ← optional "lastOperation" Json.text
    pure ⟨id, guid, crn, url, account, group, plan, target, state, locked, dashboard, createdAt,
      operation⟩

/-- Writes an observed state. -/
def Observation.encode (o : Observation) : Json :=
  .object (
    [("accountId", .string o.accountId)] ++
    Json.member "createdAt" (o.createdAt.map .string) ++
    [("crn", .string o.crn)] ++
    Json.member "dashboardUrl" (o.dashboardUrl.map .string) ++
    [("guid", .string o.guid), ("id", .string o.id)] ++
    Json.member "lastOperation" (o.lastOperation.map .string) ++
    [("locked", .bool o.locked), ("resourceGroupId", .string o.resourceGroupId),
      ("resourcePlanId", .string o.resourcePlanId), ("state", .string o.state),
      ("targetCrn", .string o.targetCrn), ("url", .string o.url)])

end ResourceOperator.ResourceInstance
