import ResourceOperator.External.Basic
import ResourceOperator.Topic.Mapping

/-!
# Operations on topics

A topic is addressed by its name behind the admin URL of its instance. The name is the external name
of the declaration, else the name of the object; the URL is given directly or taken from a declared
resource key. A topic that is deleted before its URL is known has no remote object.

Model of `TopicClient`: `topic_name`, `admin_url`, `resolve_references`, `observe`, `create`,
`update` and `delete`.
-/

namespace ResourceOperator.Topic

/-- The name of the topic that a resource declares. -/
def topicName (r : Managed .topic) : String :=
  r.externalName.getD r.displayName

/-- The admin URL of a declared topic. -/
def adminUrl (p : Parameters) : Except EngineError String :=
  match p.kafkaAdminUrl.filter fun url => !url.isEmpty with
  | some url => .ok url
  | none =>
    .error (.invalidConfiguration
      "topic has no kafkaAdminUrl; set it directly or through a reference")

/-- The admin URL as a field to resolve. -/
def resolutionRequest (p : Parameters) : Resolution.Request .resourceKey :=
  { field := "kafkaAdminUrl"
    current := p.kafkaAdminUrl.getD ""
    reference := p.kafkaAdminUrlRef
    selector := p.kafkaAdminUrlSelector
    extract := Managed.kafkaAdminUrlText }

/-- Takes over a resolved admin URL. -/
def applyResolution (p : Parameters) (found : Resolution) : Filled Parameters :=
  let urlChanged := found.value != p.kafkaAdminUrl.getD ""
  let refChanged := found.reference != p.kafkaAdminUrlRef
  ⟨{ p with
      kafkaAdminUrl := if urlChanged then some found.value else p.kafkaAdminUrl
      kafkaAdminUrlRef := found.reference },
    urlChanged || refChanged⟩

/-- Finds the admin URL. -/
def resolveReferences (r : Managed .topic) : Dialogue Outside (Outcome .topic Resolved) := do
  match ← Outside.ofLookup (Resolution.resolve (resolutionRequest r.spec.forProvider)) with
  | .error e => pure (.fail e r)
  | .ok found =>
    if found.isPending then pure (.ok ⟨false, ["kafkaAdminUrl"]⟩ r)
    else
      let applied := applyResolution r.spec.forProvider found
      pure (.ok ⟨applied.changed, []⟩ (r.setParameters applied.value))

/-- The resource after its topic has been seen. -/
def recordRemote (now : String) (r : Managed .topic) (t : Remote) (p : Parameters) :
    Managed .topic :=
  ((r.setParameters p).setObservation t.observation).setCondition (.available now)

/-- Looks at the topic. -/
def observe (now : String) (r : Managed .topic) : Dialogue Outside (Outcome .topic Observed) :=
  match adminUrl r.spec.forProvider with
  | .error e => pure (if r.metadata.isDeleted then .ok .absent r else .fail e r)
  | .ok url => do
    match ← Outside.cloud (.events (.getTopic url (topicName r))) with
    | .error e =>
      if e.isNotFound then pure (.ok .absent r)
      else pure (.fail (.cloud "cannot get topic" e) r)
    | .ok t =>
      let filled := Parameters.lateInitialize r.spec.forProvider t
      pure (.ok ⟨true, filled.value.isUpToDate (topicName r) t, filled.changed, []⟩
        (recordRemote now r t filled.value))

/-- Creates the topic. -/
def create (now : String) (r : Managed .topic) : Dialogue Outside (Outcome .topic Created) :=
  match adminUrl r.spec.forProvider with
  | .error e => pure (.fail e r)
  | .ok url => do
    let name := topicName r
    let request := Parameters.request r.spec.forProvider name
    match ← Outside.cloud (.events (.createTopic url request)) with
    | .error e => pure (.fail (.cloud "cannot create topic" e) r)
    | .ok () => pure (.ok ⟨[]⟩ ((r.setExternalName name).setCondition (.creating now)))

/-- Updates what disagrees. -/
def update (r : Managed .topic) : Dialogue Outside (Outcome .topic Unit) :=
  match adminUrl r.spec.forProvider with
  | .error e => pure (.fail e r)
  | .ok url => do
    match ← Outside.cloud (.events (.getTopic url (topicName r))) with
    | .error e => pure (.fail (.cloud "cannot get topic" e) r)
    | .ok t =>
      let patch := Parameters.patch r.spec.forProvider t
      if patch.isEmpty then pure (.ok () r)
      else do
        match ← Outside.cloud (.events (.updateTopic url (topicName r) patch)) with
        | .error e => pure (.fail (.cloud "cannot update topic" e) r)
        | .ok () => pure (.ok () r)

/-- Deletes the topic; one that is gone is no failure. -/
def delete (now : String) (r : Managed .topic) : Dialogue Outside (Outcome .topic Unit) :=
  let r := r.setCondition (.deleting now)
  match adminUrl r.spec.forProvider with
  | .error e => pure (.fail e r)
  | .ok url => do
    match ← Outside.cloud (.events (.deleteTopic url (topicName r))) with
    | .error e =>
      if e.isNotFound then pure (.ok () r) else pure (.fail (.cloud "cannot delete topic" e) r)
    | .ok () => pure (.ok () r)

/-- The operations on topics. -/
def external : External .topic where
  resolveReferences := resolveReferences
  observe := observe
  create := create
  update := update
  delete := delete

end ResourceOperator.Topic
