import ResourceOperator.Reference

/-!
# Resource keys as declared

What a declaration says about the credentials issued for an instance (`Parameters`), and what its
status records of the key in the cloud (`Observation`).

They are `ResourceKeyParameters` and `ResourceKeyObservation`.
-/

namespace ResourceOperator.ResourceKey

open Json.Reader

/-- Extra parameters for the creation of a key. -/
structure CreateParameters where
  serviceIdCrn : Option String
  deriving DecidableEq, Repr

/-- The desired state of a key. -/
structure Parameters where
  name : String
  source : Option String
  sourceRef : Option Reference
  sourceSelector : Option Selector
  role : Option String
  parameters : Option CreateParameters
  deriving DecidableEq, Repr

/-- The observed state of a key. -/
structure Observation where
  id : String
  guid : String
  crn : String
  url : String
  accountId : String
  resourceGroupId : String
  sourceCrn : String
  state : String
  iamCompatible : Bool
  createdAt : Option String
  kafkaAdminUrl : Option String
  deriving DecidableEq, Repr

namespace CreateParameters

/-- Reads creation parameters. -/
def decode : Json → Option CreateParameters :=
  read do
    let crn ← optional "serviceIdCrn" Json.text
    pure ⟨crn⟩

/-- Writes creation parameters. -/
def encode (p : CreateParameters) : Json :=
  .object (Json.member "serviceIdCrn" (p.serviceIdCrn.map .string))

end CreateParameters

/-- Reads a desired state. -/
def Parameters.decode : Json → Option Parameters :=
  read do
    let name ← required "name" Json.text
    let source ← optional "source" Json.text
    let sourceRef ← optional "sourceRef" Reference.decode
    let selector ← optional "sourceSelector" Selector.decode
    let role ← optional "role" Json.text
    let parameters ← optional "parameters" CreateParameters.decode
    pure ⟨name, source, sourceRef, selector, role, parameters⟩

/-- Writes a desired state. -/
def Parameters.encode (p : Parameters) : Json :=
  .object (
    [("name", .string p.name)] ++
    Json.member "parameters" (p.parameters.map CreateParameters.encode) ++
    Json.member "role" (p.role.map .string) ++
    Json.member "source" (p.source.map .string) ++
    Json.member "sourceRef" (p.sourceRef.map Reference.encode) ++
    Json.member "sourceSelector" (p.sourceSelector.map Selector.encode))

/-- Reads an observed state. -/
def Observation.decode : Json → Option Observation :=
  read do
    let id ← required "id" Json.text
    let guid ← required "guid" Json.text
    let crn ← required "crn" Json.text
    let url ← required "url" Json.text
    let account ← required "accountId" Json.text
    let group ← required "resourceGroupId" Json.text
    let source ← required "sourceCrn" Json.text
    let state ← required "state" Json.text
    let compatible ← required "iamCompatible" Json.flag
    let createdAt ← optional "createdAt" Json.text
    let adminUrl ← optional "kafkaAdminUrl" Json.text
    pure ⟨id, guid, crn, url, account, group, source, state, compatible, createdAt, adminUrl⟩

/-- Writes an observed state. -/
def Observation.encode (o : Observation) : Json :=
  .object (
    [("accountId", .string o.accountId)] ++
    Json.member "createdAt" (o.createdAt.map .string) ++
    [("crn", .string o.crn), ("guid", .string o.guid), ("iamCompatible", .bool o.iamCompatible),
      ("id", .string o.id)] ++
    Json.member "kafkaAdminUrl" (o.kafkaAdminUrl.map .string) ++
    [("resourceGroupId", .string o.resourceGroupId), ("sourceCrn", .string o.sourceCrn),
      ("state", .string o.state), ("url", .string o.url)])

end ResourceOperator.ResourceKey
