import ResourceOperator.Cloud.Call
import ResourceOperator.Failure
import ResourceOperator.Fill
import ResourceOperator.ResourceInstance.Desired
import ResourceOperator.TextSet

/-!
# Declared and remote service instances

From a remote instance to what the status records, to the desired state that would produce it, and
to the update that makes it agree. The cloud speaks of plans and resource groups by id, a
declaration by name, so that most of this asks the catalog. Tags are compared as sets and changed
by a call of their own.

The functions are `plan_name`, `resource_group_name` (`groupName`), `tag_set`,
`parameters_contained` (`contained`), `generate_observation` (`Remote.observation`),
`generate_parameters` (`Remote.parametersOf`), `late_initialize`, `changed_fields`, `is_up_to_date`,
`build_patch` (`patch`) and `tag_changes`.
-/

namespace ResourceOperator.ResourceInstance

open Cloud

/-- A field that can change after creation. -/
inductive Field where
  | name
  | plan
  | parameters
  | allowCleanup
  | tags
  deriving DecidableEq, Repr

/-- The tags of a list, an empty one not counting. -/
def tagSet (tags : List String) : List String :=
  TextSet.ofList (tags.filter fun t => !t.isEmpty)

/-- Every member of a desired object is there with the same value; anything else must be the same.
-/
def contained (desired : Json) (actual : Option Json) : Bool :=
  match desired, actual with
  | .object members, some (.object found) =>
    members.all fun e => ((Table.get? e.1 found).map (·.same e.2)).getD false
  | .object members, none => members.isEmpty
  | v, some w => v.same w
  | _, none => false

/-- Parameters that say something: neither null nor an empty object. -/
def informative : Json → Bool
  | .null => false
  | .object [] => false
  | _ => true

/-- What the status records of a remote instance. -/
def Remote.observation (r : Remote) : Observation :=
  { id := r.id
    guid := r.guid
    crn := r.crn
    url := r.url
    accountId := r.accountId
    resourceGroupId := r.resourceGroupId
    resourcePlanId := r.resourcePlanId
    targetCrn := r.targetCrn
    state := r.state.name
    locked := r.locked
    dashboardUrl := r.dashboardUrl
    createdAt := r.createdAt
    lastOperation := r.lastOperation.map fun o => o.operation ++ " " ++ o.state }

/-- The name of a plan of a service; empty when one of the two is not known. -/
def planName (service planId : String) : Dialogue Catalog (Except EngineError String) :=
  if planId.isEmpty || service.isEmpty then pure (.ok "")
  else do
    let answer ← Dialogue.call (I := Catalog) (.planName service planId)
    pure (answer.mapError (.lookup "cannot look up resource plan name"))

/-- The name of a resource group; empty when its id is not known. -/
def groupName (groupId : String) : Dialogue Catalog (Except EngineError String) :=
  if groupId.isEmpty then pure (.ok "")
  else do
    let answer ← Dialogue.call (I := Catalog) (.groupName groupId)
    pure (answer.mapError (.lookup "cannot look up resource group name"))

/-- The desired state of a service's instance, given the name of its plan. The name of the resource
group is left open. -/
def Remote.parametersWith (r : Remote) (service plan : String) : Parameters :=
  { name := r.name
    target := r.regionId
    resourceGroupName := ""
    serviceName := service
    resourcePlanName := plan
    tags := some (r.tags.mergeSort fun a b => decide (a ≤ b))
    allowCleanup := some r.allowCleanup
    parameters := r.parameters
    entityLock := some r.locked }

/-- The desired state that would produce a remote instance of a service. -/
def Remote.parametersOf (r : Remote) (service : String) :
    Dialogue Catalog (Except EngineError Parameters) := do
  let plan ← planName service r.resourcePlanId
  pure (plan.map (r.parametersWith service))

namespace Parameters

/-- Fills the unset fields that need no lookup: tags, flags and parameters. -/
def fillReported (p : Parameters) (r : Remote) : Filled Parameters :=
  let tags := Filled.ofOption p.tags (if r.tags.isEmpty then none else some r.tags)
  let cleanup := Filled.ofOption p.allowCleanup (some r.allowCleanup)
  let lock := Filled.ofOption p.entityLock (some r.locked)
  let parameters := Filled.ofOption p.parameters (r.parameters.filter informative)
  ⟨{ p with
      tags := tags.value
      allowCleanup := cleanup.value
      entityLock := lock.value
      parameters := parameters.value },
    tags.changed || cleanup.changed || lock.changed || parameters.changed⟩

/-- Fills unset fields from a remote instance. A lookup is made only for a name that is unset; when
it fails, what was filled before it stays. -/
def lateInitialize (p : Parameters) (r : Remote) :
    Dialogue Catalog (Except EngineError Bool × Parameters) := do
  let target := Filled.ofRequired p.target r.regionId
  let p := { p with target := target.value }
  let looked ← if p.resourceGroupName.isEmpty then groupName r.resourceGroupId else pure (.ok "")
  match looked with
  | .error e => pure (.error e, p)
  | .ok name => do
    let group := Filled.ofRequired p.resourceGroupName name
    let p := { p with resourceGroupName := group.value }
    let looked ← if p.resourcePlanName.isEmpty then planName p.serviceName r.resourcePlanId
      else pure (.ok "")
    match looked with
    | .error e => pure (.error e, p)
    | .ok name =>
      let plan := Filled.ofRequired p.resourcePlanName name
      let p := { p with resourcePlanName := plan.value }
      let reported := p.fillReported r
      pure (.ok (target.changed || group.changed || plan.changed || reported.changed),
        reported.value)

/-- The fields that can change and disagree with a remote instance whose plan has this name. -/
def changedFieldsWith (p : Parameters) (r : Remote) (plan : String) : List Field :=
  (if unsetOrEqual (some p.name) (some r.name) then [] else [.name]) ++
  (if unsetOrEqual (some p.resourcePlanName) (some plan) then [] else [.plan]) ++
  (match p.parameters with
    | none => []
    | some desired => if contained desired r.parameters then [] else [.parameters]) ++
  (if p.allowCleanup.isSome && p.allowCleanup != some r.allowCleanup then [.allowCleanup]
    else []) ++
  (match p.tags with
    | none => []
    | some tags => if tagSet tags == tagSet r.tags then [] else [.tags])

/-- The fields that can change and disagree with a remote instance. Target, resource group, service
and lock are fixed at creation and never compared. -/
def changedFields (p : Parameters) (r : Remote) :
    Dialogue Catalog (Except EngineError (List Field)) := do
  let plan ← planName p.serviceName r.resourcePlanId
  pure (plan.map (p.changedFieldsWith r))

/-- No field that can change disagrees. -/
def isUpToDate (p : Parameters) (r : Remote) : Dialogue Catalog (Except EngineError Bool) := do
  let fields ← p.changedFields r
  pure (fields.map List.isEmpty)

/-- What an update says about some fields, given the id of the desired plan. Tags are changed
elsewhere. -/
def patchWith (p : Parameters) (fields : List Field) (planId : String) : Patch :=
  Table.ofList (fields.flatMap fun
    | .name => [("name", Json.string p.name)]
    | .plan => [("resource_plan_id", Json.string planId)]
    | .parameters => Json.member "parameters" p.parameters
    | .allowCleanup => Json.member "allow_cleanup" (p.allowCleanup.map .bool)
    | .tags => [])

/-- The update of the fields that disagree, apart from the tags. -/
def patch (p : Parameters) (r : Remote) : Dialogue Catalog (Except EngineError Patch) := do
  match ← p.changedFields r with
  | .error e => pure (.error e)
  | .ok fields =>
    if fields.contains .plan then do
      let answer ← Dialogue.call (I := Catalog) (.planId p.serviceName p.resourcePlanName)
      pure ((answer.mapError (.lookup "cannot look up resource plan id")).map
        (p.patchWith fields))
    else pure (.ok (p.patchWith fields ""))

/-- The tags to attach and the tags to detach, so that the instance has exactly the desired ones. -/
def tagChanges (p : Parameters) (r : Remote) : List String × List String :=
  match p.tags with
  | none => ([], [])
  | some tags =>
    (TextSet.diff (tagSet tags) (tagSet r.tags), TextSet.diff (tagSet r.tags) (tagSet tags))

end Parameters

end ResourceOperator.ResourceInstance
