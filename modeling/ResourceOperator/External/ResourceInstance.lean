import ResourceOperator.External.Basic
import ResourceOperator.ResourceInstance.Mapping

/-!
# Operations on service instances

An instance is found under the external name of its declaration, and one that is removed or waits to
be reclaimed does not exist any more. Plan and resource group are looked up in the catalog, and tags
are attached and detached by calls of their own.

Model of `ResourceInstanceClient`: `fetch`, `observe`, `create`, `update` and `delete`.
-/

namespace ResourceOperator.ResourceInstance

/-- The instance with an id, unless it does not exist. -/
def fetch (id : String) : Dialogue Outside (Except EngineError (Option Remote)) := do
  match ← Outside.cloud (.controller (.getInstance id)) with
  | .error e =>
    if e.isNotFound then pure (.ok none)
    else pure (.error (.cloud "cannot get resource instance" e))
  | .ok remote => pure (.ok (if remote.state.isPresent then some remote else none))

/-- The resource after its instance has been seen. -/
def recordRemote (now : String) (r : Managed .resourceInstance) (remote : Remote) :
    Managed .resourceInstance :=
  (r.setObservation remote.observation).setCondition (remote.state.readiness now)

/-- Looks at the instance. When a lookup fails, what was filled in before it stays. -/
def observe (now : String) (r : Managed .resourceInstance) :
    Dialogue Outside (Outcome .resourceInstance Observed) :=
  match r.externalName with
  | none => pure (.ok .absent r)
  | some id => do
    match ← fetch id with
    | .error e => pure (.fail e r)
    | .ok none => pure (.ok .absent r)
    | .ok (some remote) => do
      let (late, filled) ←
        Outside.ofCatalog (Parameters.lateInitialize r.spec.forProvider remote)
      let r := r.setParameters filled
      match late with
      | .error e => pure (.fail e r)
      | .ok changed => do
        match ← Outside.ofCatalog (filled.isUpToDate remote) with
        | .error e => pure (.fail e r)
        | .ok upToDate =>
          pure (.ok ⟨true, upToDate, changed, []⟩ (recordRemote now r remote))

/-- The request that creates the declared instance. -/
def Parameters.request (p : Parameters) (groupId planId : String) : Request :=
  { name := p.name
    target := p.target
    resourceGroup := groupId
    resourcePlanId := planId
    tags := p.tags.filter fun tags => !tags.isEmpty
    allowCleanup := p.allowCleanup
    parameters := p.parameters
    entityLock := p.entityLock }

/-- Creates the instance. -/
def create (now : String) (r : Managed .resourceInstance) :
    Dialogue Outside (Outcome .resourceInstance Created) :=
  let p : Parameters := r.spec.forProvider
  if p.resourceGroupName.isEmpty || p.resourcePlanName.isEmpty then
    pure (.fail (.invalidConfiguration "resourceGroupName and resourcePlanName are required") r)
  else do
    match ← Outside.cloud (.catalog (.groupId p.resourceGroupName)) with
    | .error e => pure (.fail (.lookup "cannot look up resource group id" e) r)
    | .ok groupId => do
      match ← Outside.cloud (.catalog (.planId p.serviceName p.resourcePlanName)) with
      | .error e => pure (.fail (.lookup "cannot look up resource plan id" e) r)
      | .ok planId => do
        match ← Outside.cloud (.controller (.createInstance (p.request groupId planId))) with
        | .error e => pure (.fail (.cloud "cannot create resource instance" e) r)
        | .ok remote =>
          pure (.ok ⟨[]⟩ ((r.setExternalName remote.id).setCondition (.creating now)))

/-- Makes a call whose answer does not matter, unless there is nothing to say. -/
def callUnless (skip : Bool) (context : String) (call : Cloud.Call) :
    Dialogue Outside (Except EngineError Unit) :=
  if skip then pure (.ok ())
  else do
    match ← Outside.cloud call with
    | .error e => pure (.error (.cloud context e))
    | .ok _ => pure (.ok ())

/-- Sends an update, and then the tags to attach and to detach; nothing is sent that is empty. -/
def send (id crn : String) (patch : Cloud.Patch) (tags : List String × List String) :
    Dialogue Outside (Except EngineError Unit) := do
  match ← callUnless patch.isEmpty "cannot update resource instance"
    (.controller (.updateInstance id patch)) with
  | .error e => pure (.error e)
  | .ok () => do
    match ← callUnless tags.1.isEmpty "cannot attach tags"
      (.controller (.attachTags crn tags.1)) with
    | .error e => pure (.error e)
    | .ok () =>
      callUnless tags.2.isEmpty "cannot detach tags" (.controller (.detachTags crn tags.2))

/-- Updates what disagrees. -/
def update (r : Managed .resourceInstance) : Dialogue Outside (Outcome .resourceInstance Unit) :=
  match r.externalName with
  | none => pure (.ok () r)
  | some id => do
    match ← fetch id with
    | .error e => pure (.fail e r)
    | .ok none => pure (.ok () r)
    | .ok (some remote) => do
      let p : Parameters := r.spec.forProvider
      match ← Outside.ofCatalog (p.patch remote) with
      | .error e => pure (.fail e r)
      | .ok patch => do
        let sent ← send id remote.crn patch (p.tagChanges remote)
        pure ⟨sent, r⟩

/-- Deletes the instance; one that is gone is no failure. -/
def delete (now : String) (r : Managed .resourceInstance) :
    Dialogue Outside (Outcome .resourceInstance Unit) :=
  let r := r.setCondition (.deleting now)
  match r.externalName with
  | none => pure (.ok () r)
  | some id => do
    match ← Outside.cloud (.controller (.deleteInstance id false)) with
    | .error e =>
      if e.isNotFound then pure (.ok () r)
      else pure (.fail (.cloud "cannot delete resource instance" e) r)
    | .ok () => pure (.ok () r)

/-- The operations on service instances. -/
def external : External .resourceInstance where
  resolveReferences := External.resolveNothing
  observe := observe
  create := create
  update := update
  delete := delete

end ResourceOperator.ResourceInstance
