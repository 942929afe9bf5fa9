import ResourceOperator.Condition

/-!
# Resource keys in the cloud

A key as the cloud reports it, with the credentials it issues, its lifecycle states, and the request
that creates one.

The records are `ResourceKey`, with `ResourceKeyState`, and `CreateResourceKeyRequest`.
`State.readiness` is `condition`.
-/

namespace ResourceOperator.ResourceKey

open Json.Reader

variable {D : Type} [Json.Document D]

/-- The lifecycle state of a key. -/
inductive State where
  | active
  | inactive
  | removed
  | unknown
  deriving DecidableEq, Repr

/-- A key as the cloud reports it. -/
structure Remote where
  id : String
  guid : String
  crn : String
  url : String
  name : String
  accountId : String
  resourceGroupId : String
  sourceCrn : String
  state : State
  iamCompatible : Bool
  resourceInstanceUrl : String
  createdAt : Option String
  credentials : Json
  deriving DecidableEq, Repr

/-- What a new key is to be. -/
structure Request where
  name : String
  source : String
  role : Option String
  parameters : Option Json
  deriving DecidableEq, Repr

namespace State

/-- The name of a state. -/
def name : State → String
  | .active => "active"
  | .inactive => "inactive"
  | .removed => "removed"
  | .unknown => "unknown"

/-- The state with this name; a name that is not known is the unknown state. -/
def named : String → State
  | "active" => .active
  | "inactive" => .inactive
  | "removed" => .removed
  | _ => .unknown

@[simp] theorem named_name (s : State) : named s.name = s := by
  cases s <;> rfl

/-- Reads a state. -/
def decode : D → Option State :=
  Json.choice fun s => some (named s)

/-- Writes a state. -/
def encode (s : State) : Json :=
  .string s.name

/-- The readiness that follows from a state. -/
def readiness (s : State) (now : String) : Condition :=
  match s with
  | .active => .available now
  | .removed => .deleting now
  | .inactive => .unavailable now
  | .unknown => .unavailable now

end State

/-- Reads a reported key. -/
def Remote.decode : D → Option Remote :=
  read do
    let id ← required "id" Json.text
    let guid ← defaulted "guid" "" Json.text
    let crn ← defaulted "crn" "" Json.text
    let url ← defaulted "url" "" Json.text
    let name ← defaulted "name" "" Json.text
    let account ← defaulted "account_id" "" Json.text
    let group ← defaulted "resource_group_id" "" Json.text
    let source ← defaulted "source_crn" "" Json.text
    let state ← defaulted "state" .unknown State.decode
    let compatible ← defaulted "iam_compatible" false Json.flag
    let instanceUrl ← defaulted "resource_instance_url" "" Json.text
    let createdAt ← lastOptional "created_at" Json.text
    let credentials ← defaulted "credentials" .null Json.any
    pure ⟨id, guid, crn, url, name, account, group, source, state, compatible, instanceUrl,
      createdAt, credentials⟩

/-- Writes a reported key. -/
def Remote.encode (k : Remote) : Json :=
  .object (
    [("account_id", .string k.accountId)] ++
    Json.member "created_at" (k.createdAt.map .string) ++
    [("credentials", k.credentials), ("crn", .string k.crn), ("guid", .string k.guid),
      ("iam_compatible", .bool k.iamCompatible), ("id", .string k.id), ("name", .string k.name),
      ("resource_group_id", .string k.resourceGroupId),
      ("resource_instance_url", .string k.resourceInstanceUrl),
      ("source_crn", .string k.sourceCrn), ("state", k.state.encode), ("url", .string k.url)])

/-- Reads a request. -/
def Request.decode : Json → Option Request :=
  read do
    let name ← required "name" Json.text
    let source ← required "source" Json.text
    let role ← optional "role" Json.text
    let parameters ← optional "parameters" Json.any
    pure ⟨name, source, role, parameters⟩

/-- Writes a request. -/
def Request.encode (r : Request) : Json :=
  .object (
    [("name", .string r.name)] ++
    Json.member "parameters" r.parameters ++
    Json.member "role" (r.role.map .string) ++
    [("source", .string r.source)])

end ResourceOperator.ResourceKey
