import ResourceOperator.ConnectionDetails
import ResourceOperator.External.Basic
import ResourceOperator.ResourceKey.Mapping

/-!
# Operations on resource keys

A key names its instance directly, or through a declared instance whose external name it takes. It
is found under its own external name, and one that is removed does not exist any more. Its
credentials become connection details; a template that cannot be rendered publishes nothing and
changes nothing else.

Model of `ResourceKeyClient`: `resolve_references`, `fetch`, `observe`, `create`, `update` and
`delete`, with `connection_details`.
-/

namespace ResourceOperator.ResourceKey

/-- The source as a field to resolve. -/
def resolutionRequest (p : Parameters) : Resolution.Request .resourceInstance :=
  { field := "source"
    current := p.source.getD ""
    reference := p.sourceRef
    selector := p.sourceSelector
    extract := Managed.externalNameText }

/-- Takes over a resolved source. -/
def applyResolution (p : Parameters) (found : Resolution) : Filled Parameters :=
  let sourceChanged := found.value != p.source.getD ""
  let refChanged := found.reference != p.sourceRef
  ⟨{ p with
      source := if sourceChanged then some found.value else p.source
      sourceRef := found.reference },
    sourceChanged || refChanged⟩

/-- Finds the instance that the key is issued for. -/
def resolveReferences (r : Managed .resourceKey) :
    Dialogue Outside (Outcome .resourceKey Resolved) := do
  match ← Outside.ofLookup (Resolution.resolve (resolutionRequest r.spec.forProvider)) with
  | .error e => pure (.fail e r)
  | .ok found =>
    if found.isPending then pure (.ok ⟨false, ["source"]⟩ r)
    else
      let applied := applyResolution r.spec.forProvider found
      pure (.ok ⟨applied.changed, []⟩ (r.setParameters applied.value))

/-- The key with an id, unless it does not exist. -/
def fetch (id : String) : Dialogue Outside (Except EngineError (Option Remote)) := do
  match ← Outside.cloud (.controller (.getKey id)) with
  | .error e =>
    if e.isNotFound then pure (.ok none) else pure (.error (.cloud "cannot get resource key" e))
  | .ok remote => pure (.ok (if remote.state = .removed then none else some remote))

/-- The connection details of a key, none when a template cannot be rendered. -/
def connectionDetails (r : Managed .resourceKey) (remote : Remote) : Table String :=
  let templates : Option (Table String) := r.spec.connectionTemplates
  match ConnectionDetails.extract (templates.getD []) remote.credentials with
  | .ok details => details
  | .error _ => []

/-- The resource after its key has been seen. -/
def recordRemote (now : String) (r : Managed .resourceKey) (remote : Remote) (p : Parameters) :
    Managed .resourceKey :=
  ((r.setParameters p).setObservation remote.observation).setCondition (remote.state.readiness now)

/-- Looks at the key. -/
def observe (now : String) (r : Managed .resourceKey) :
    Dialogue Outside (Outcome .resourceKey Observed) :=
  match r.externalName with
  | none => pure (.ok .absent r)
  | some id => do
    match ← fetch id with
    | .error e => pure (.fail e r)
    | .ok none => pure (.ok .absent r)
    | .ok (some remote) =>
      let filled := Parameters.lateInitialize r.spec.forProvider remote
      pure (.ok ⟨true, filled.value.isUpToDate remote, filled.changed, connectionDetails r remote⟩
        (recordRemote now r remote filled.value))

/-- Creates the key. -/
def create (now : String) (r : Managed .resourceKey) :
    Dialogue Outside (Outcome .resourceKey Created) :=
  match Parameters.request r.spec.forProvider with
  | .error e => pure (.fail e r)
  | .ok request => do
    match ← Outside.cloud (.controller (.createKey request)) with
    | .error e => pure (.fail (.cloud "cannot create resource key" e) r)
    | .ok remote =>
      pure (.ok ⟨connectionDetails r remote⟩
        ((r.setExternalName remote.id).setCondition (.creating now)))

/-- Updates what disagrees. -/
def update (r : Managed .resourceKey) : Dialogue Outside (Outcome .resourceKey Unit) :=
  match r.externalName with
  | none => pure (.ok () r)
  | some id => do
    match ← fetch id with
    | .error e => pure (.fail e r)
    | .ok none => pure (.ok () r)
    | .ok (some remote) =>
      let patch := Parameters.patch r.spec.forProvider remote
      if patch.isEmpty then pure (.ok () r)
      else do
        match ← Outside.cloud (.controller (.updateKey id patch)) with
        | .error e => pure (.fail (.cloud "cannot update resource key" e) r)
        | .ok _ => pure (.ok () r)

/-- Deletes the key; one that is gone is no failure. -/
def delete (now : String) (r : Managed .resourceKey) :
    Dialogue Outside (Outcome .resourceKey Unit) :=
  let r := r.setCondition (.deleting now)
  match r.externalName with
  | none => pure (.ok () r)
  | some id => do
    match ← Outside.cloud (.controller (.deleteKey id)) with
    | .error e =>
      if e.isNotFound then pure (.ok () r)
      else pure (.fail (.cloud "cannot delete resource key" e) r)
    | .ok () => pure (.ok () r)

/-- The operations on resource keys. -/
def external : External .resourceKey where
  resolveReferences := resolveReferences
  observe := observe
  create := create
  update := update
  delete := delete

end ResourceOperator.ResourceKey
