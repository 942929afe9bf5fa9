import ResourceOperator.Condition

/-!
# Service instances in the cloud

An instance of a catalog service as the cloud reports it, its lifecycle states, and the request that
creates one.

The records are `ResourceInstance`, with `LastOperation` and `ResourceInstanceState`, and
`CreateResourceInstanceRequest`. `State.isPresent` is `exists`, and `State.readiness` is
`condition`.
-/

namespace ResourceOperator.ResourceInstance

open Json.Reader

variable {D : Type} [Json.Document D]

/-- The lifecycle state of an instance. -/
inductive State where
  | active
  | inactive
  | failed
  | pendingReclamation
  | provisioning
  | preProvisioning
  | removed
  | unknown
  deriving DecidableEq, Repr

/-- The last asynchronous operation on an instance. -/
structure LastOperation where
  operation : String
  state : String
  description : Option String
  deriving DecidableEq, Repr

/-- An instance as the cloud reports it; its tags come from another API. -/
structure Remote where
  id : String
  guid : String
  crn : String
  url : String
  name : String
  accountId : String
  resourceGroupId : String
  resourceId : String
  resourcePlanId : String
  targetCrn : String
  regionId : String
  state : State
  allowCleanup : Bool
  locked : Bool
  parameters : Option Json
  dashboardUrl : Option String
  createdAt : Option String
  lastOperation : Option LastOperation
  tags : List String
  deriving DecidableEq, Repr

/-- What a new instance is to be. -/
structure Request where
  name : String
  target : String
  resourceGroup : String
  resourcePlanId : String
  tags : Option (List String)
  allowCleanup : Option Bool
  parameters : Option Json
  entityLock : Option Bool
  deriving DecidableEq, Repr

namespace State

/-- The name of a state. -/
def name : State → String
  | .active => "active"
  | .inactive => "inactive"
  | .failed => "failed"
  | .pendingReclamation => "pending_reclamation"
  | .provisioning => "provisioning"
  | .preProvisioning => "pre_provisioning"
  | .removed => "removed"
  | .unknown => "unknown"

/-- The state with this name; a name that is not known is the unknown state. -/
def named : String → State
  | "active" => .active
  | "inactive" => .inactive
  | "failed" => .failed
  | "pending_reclamation" => .pendingReclamation
  | "provisioning" => .provisioning
  | "pre_provisioning" => .preProvisioning
  | "removed" => .removed
  | _ => .unknown

@[simp] theorem named_name (s : State) : named s.name = s := by
  cases s <;> rfl

/-- Reads a state. -/
def decode : D → Option State :=
  Json.choice fun s => some (named s)

/-- Writes a state. -/
def encode (s : State) : Json :=
  .string s.name

/-- An instance in this state still counts as existing. -/
def isPresent : State → Bool
  | .removed => false
  | .pendingReclamation => false
  | _ => true

/-- The readiness that follows from a state. -/
def readiness (s : State) (now : String) : Condition :=
  match s with
  | .active => .available now
  | .provisioning => .creating now
  | .preProvisioning => .creating now
  | .removed => .deleting now
  | .pendingReclamation => .deleting now
  | .inactive => .unavailable now
  | .failed => .unavailable now
  | .unknown => .unavailable now

end State

namespace LastOperation

/-- Reads an operation. -/
def decode : D → Option LastOperation :=
  read do
    let operation ← defaulted "type" "" Json.text
    let state ← defaulted "state" "" Json.text
    let description ← lastOptional "description" Json.text
    pure ⟨operation, state, description⟩

/-- Writes an operation. -/
def encode (o : LastOperation) : Json :=
  .object (
    Json.member "description" (o.description.map .string) ++
    [("state", .string o.state), ("type", .string o.operation)])

end LastOperation

/-- Reads a reported instance. -/
def Remote.decode : D → Option Remote :=
  read do
    let id ← required "id" Json.text
    let guid ← defaulted "guid" "" Json.text
    let crn ← defaulted "crn" "" Json.text
    let url ← defaulted "url" "" Json.text
    let name ← defaulted "name" "" Json.text
    let account ← defaulted "account_id" "" Json.text
    let group ← defaulted "resource_group_id" "" Json.text
    let resource ← defaulted "resource_id" "" Json.text
    let plan ← defaulted "resource_plan_id" "" Json.text
    let target ← defaulted "target_crn" "" Json.text
    let region ← defaulted "region_id" "" Json.text
    let state ← defaulted "state" .unknown State.decode
    let cleanup ← defaulted "allow_cleanup" false Json.flag
    let locked ← defaulted "locked" false Json.flag
    let parameters ← lastOptional "parameters" Json.any
    let dashboard ← lastOptional "dashboard_url" Json.text
    let createdAt ← lastOptional "created_at" Json.text
    let operation ← lastOptional "last_operation" LastOperation.decode
    let tags ← defaulted "tags" [] (Json.list Json.text)
    pure ⟨id, guid, crn, url, name, account, group, resource, plan, target, region, state, cleanup,
      locked, parameters, dashboard, createdAt, operation, tags⟩

/-- Writes a reported instance. -/
def Remote.encode (r : Remote) : Json :=
  .object (
    [("account_id", .string r.accountId), ("allow_cleanup", .bool r.allowCleanup)] ++
    Json.member "created_at" (r.createdAt.map .string) ++
    [("crn", .string r.crn)] ++
    Json.member "dashboard_url" (r.dashboardUrl.map .string) ++
    [("guid", .string r.guid), ("id", .string r.id)] ++
    Json.member "last_operation" (r.lastOperation.map LastOperation.encode) ++
    [("locked", .bool r.locked), ("name", .string r.name)] ++
    Json.member "parameters" r.parameters ++
    [("region_id", .string r.regionId), ("resource_group_id", .string r.resourceGroupId),
      ("resource_id", .string r.resourceId), ("resource_plan_id", .string r.resourcePlanId),
      ("state", r.state.encode), ("tags", Json.ofStrings r.tags),
      ("target_crn", .string r.targetCrn), ("url", .string r.url)])

/-- Reads a request. -/
def Request.decode : Json → Option Request :=
  read do
    let name ← required "name" Json.text
    let target ← required "target" Json.text
    let group ← required "resource_group" Json.text
    let plan ← required "resource_plan_id" Json.text
    let tags ← optional "tags" (Json.list Json.text)
    let cleanup ← optional "allow_cleanup" Json.flag
    let parameters ← optional "parameters" Json.any
    let lock ← optional "entity_lock" Json.flag
    pure ⟨name, target, group, plan, tags, cleanup, parameters, lock⟩

/-- Writes a request. -/
def Request.encode (r : Request) : Json :=
  .object (
    Json.member "allow_cleanup" (r.allowCleanup.map .bool) ++
    Json.member "entity_lock" (r.entityLock.map .bool) ++
    [("name", .string r.name)] ++
    Json.member "parameters" r.parameters ++
    [("resource_group", .string r.resourceGroup), ("resource_plan_id", .string r.resourcePlanId)] ++
    Json.member "tags" (r.tags.map Json.ofStrings) ++
    [("target", .string r.target)])

end ResourceOperator.ResourceInstance
