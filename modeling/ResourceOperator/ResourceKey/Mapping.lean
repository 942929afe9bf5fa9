import ResourceOperator.Failure
import ResourceOperator.Fill
import ResourceOperator.ResourceKey.Desired
import ResourceOperator.ResourceKey.Remote

/-!
# Declared and remote resource keys

From a declared key to the request that creates it, and from a remote key to what the status
records, to the desired state that would produce it, and to the update that makes it agree. Of a
key's credentials only the three members read by `credential` are ever used here.

The functions are `credential`, `generate_request` (`Parameters.request`), `generate_observation`,
`generate_parameters`, `late_initialize`, `changed_fields`, `is_up_to_date` and `build_patch`.
-/

namespace ResourceOperator.ResourceKey

/-- A field that can change after creation. -/
inductive Field where
  | name
  deriving DecidableEq, Repr

/-- A member of the credentials, unless it is missing, empty or no text. -/
def Remote.credential (k : Remote) (name : String) : Option String :=
  ((k.credentials.get? name).bind Json.string?).filter fun s => !s.isEmpty

/-- The request that creates the declared key; it needs a source. -/
def Parameters.request (p : Parameters) : Except EngineError Request :=
  match p.source.filter fun s => !s.isEmpty with
  | none =>
    .error (.invalidConfiguration
      "resource key has no source; set source, sourceRef or sourceSelector")
  | some source =>
    .ok
      { name := p.name
        source := source
        role := p.role.filter fun r => !r.isEmpty
        parameters := (p.parameters.bind CreateParameters.serviceIdCrn).map fun crn =>
          .object [("serviceid_crn", .string crn)] }

/-- What the status records of a remote key. -/
def Remote.observation (k : Remote) : Observation :=
  { id := k.id
    guid := k.guid
    crn := k.crn
    url := k.url
    accountId := k.accountId
    resourceGroupId := k.resourceGroupId
    sourceCrn := k.sourceCrn
    state := k.state.name
    iamCompatible := k.iamCompatible
    createdAt := k.createdAt
    kafkaAdminUrl := k.credential "kafka_admin_url" }

/-- The desired state that would produce a remote key. -/
def Remote.parameters (k : Remote) : Parameters :=
  { name := k.name
    source := nonEmpty k.sourceCrn
    sourceRef := none
    sourceSelector := none
    role := k.credential "iam_role_crn"
    parameters := (k.credential "iam_serviceid_crn").map fun crn => ⟨some crn⟩ }

namespace Parameters

/-- Fills unset fields from a remote key. -/
def lateInitialize (p : Parameters) (k : Remote) : Filled Parameters :=
  let source := Filled.ofText p.source k.sourceCrn
  let role := Filled.ofOption p.role (k.credential "iam_role_crn")
  ⟨{ p with source := source.value, role := role.value }, source.changed || role.changed⟩

/-- The fields that can change and disagree with a remote key. -/
def changedFields (p : Parameters) (k : Remote) : List Field :=
  if unsetOrEqual (some p.name) (some k.parameters.name) then [] else [.name]

/-- No field that can change disagrees. -/
def isUpToDate (p : Parameters) (k : Remote) : Bool :=
  (p.changedFields k).isEmpty

/-- The update of the fields that disagree. -/
def patch (p : Parameters) (k : Remote) : Table Json :=
  Table.ofList ((p.changedFields k).map fun
    | .name => ("name", .string p.name))

end Parameters

end ResourceOperator.ResourceKey
