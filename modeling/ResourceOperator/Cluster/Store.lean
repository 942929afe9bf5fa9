import ResourceOperator.Cluster.Call
import ResourceOperator.Cluster.Secret
import ResourceOperator.Managed
import ResourceOperator.Resolve

/-!
# Declared objects in the cluster

`perform` carries out the writes of a reconciliation over the API server, `answer` the look-ups of
referenced objects. A change of the finalizers reads the object first and sends the version that it
read, so that the server refuses the change if the object has changed in between.

Model of `KubeStore`: `finalizers` and `set_finalizers` (`changeFinalizers`), and the
`add_finalizer`, `remove_finalizer`, `patch`, `patch_status`, `apply_secret` and `delete_secret`
that `perform` carries out. `answer` is the `get` and the `list` of a `ReferenceSource`.
-/

namespace ResourceOperator.Cluster

variable {k : Kind}

/-- The path of an object. -/
def objectPath (k : Kind) (name : String) : String :=
  collectionPath k ++ "/" ++ name

/-- Reads an object. -/
def getObject (k : Kind) (name : String) : Dialogue Server (Except Failure (Managed k)) :=
  forNamed name (exchangeFor (Managed.decode k) (getRequest (objectPath k name)))

/-- What a list says about itself. -/
def decodeListMetadata : Json → Option Unit :=
  Json.Reader.readObject do
    let _ ← Json.Reader.optional "continue" Json.text
    let _ ← Json.Reader.optional "remainingItemCount" Json.int64
    let _ ← Json.Reader.optional "resourceVersion" Json.text
    let _ ← Json.Reader.optional "selfLink" Json.text
    pure ()

/-- Reads a list of objects. -/
def decodeList (k : Kind) : Json → Option (List (Managed k)) :=
  Json.Reader.readObject do
    let _ ← Json.Reader.defaulted "metadata" () decodeListMetadata
    let items ← Json.Reader.required "items"
      (Json.Reader.nullable (Json.list (Managed.decode k)))
    pure (items.getD [])

/-- Reads all objects of a kind. -/
def listObjects (k : Kind) : Dialogue Server (Except Failure (List (Managed k))) :=
  exchangeFor (decodeList k) (getRequest (collectionPath k ++ "?"))

/-- Merges a patch into an object or a part of it. -/
def mergeInto (k : Kind) (name part : String) (patch : Json) :
    Dialogue Server (Except Failure (Managed k)) :=
  let target := objectPath k name ++ part ++ "?&fieldManager=" ++ fieldManager
  forNamed name (exchangeFor (Managed.decode k) (patchRequest target Net.mergePatchType patch))

/-- Reads an object and replaces its finalizers, if they change. -/
def changeFinalizers (k : Kind) (name : String) (change : List String → List String) :
    Dialogue Server (Except Failure Unit) := do
  match ← getObject k name with
  | .error e => pure (.error e)
  | .ok object =>
    let before := object.metadata.finalizerList
    if change before = before then pure (.ok ())
    else
      let patch := finalizerPatch object.metadata.resourceVersion (change before)
      match ← mergeInto k name "" patch with
      | .error e => pure (.error e)
      | .ok _ => pure (.ok ())

/-- The finalizers with the operator's own among them. -/
def withFinalizer (finalizers : List String) : List String :=
  if finalizers.contains finalizer then finalizers else finalizers ++ [finalizer]

/-- The finalizers without the operator's own. -/
def withoutFinalizer (finalizers : List String) : List String :=
  finalizers.filter (· != finalizer)

/-- The content type of patches that say what the operator wants. -/
def applyPatchType : String := "application/apply-patch+yaml"

/-- Writes the secret that publishes connection details. -/
def putSecret (secret : SecretReference) (details : Table String) :
    Dialogue Server (Except Failure Unit) :=
  let target := secretsPath secret.ns ++ "/" ++ secret.name ++ "?&force=true&fieldManager=" ++
    fieldManager
  let request := patchRequest target applyPatchType (connectionSecret secret details)
  forNamed secret.name
    (exchangeFor (fun v => (Secret.decode v).map fun _ => ()) request)

/-- A result without its value. -/
def void {α : Type} (d : Dialogue Server (Except Failure α)) :
    Dialogue Server (Except Failure Unit) := do
  match ← d with
  | .error e => pure (.error e)
  | .ok _ => pure (.ok ())

/-- Carries out a write. A secret that does not exist counts as deleted. -/
def perform (k : Kind) : Call → Dialogue Server (Except Failure Unit)
  | .addFinalizer name => changeFinalizers k name withFinalizer
  | .removeFinalizer name => changeFinalizers k name withoutFinalizer
  | .patch name patch => void (mergeInto k name "" patch)
  | .patchStatus name status => void (mergeInto k name "/status" (.object [("status", status)]))
  | .applySecret secret details => putSecret secret details
  | .deleteSecret secret => do
    match ← removeSecret secret.ns secret.name with
    | .error e => pure (if e.code? = some 404 then .ok () else .error e)
    | .ok () => pure (.ok ())

/-- The server's answer says that there is no such object. -/
def Failure.isMissing : Failure → Bool
  | .answered report => report.reason == "NotFound"
  | .unanswered => false

/-- Looks up declared objects. -/
def answer (k : Kind) : (q : LookupCall) → Dialogue Server ((Lookup k).Answer q)
  | .get name => do
    match ← getObject k name with
    | .ok object => pure (.ok object)
    | .error e => pure (.error (if e.isMissing then .notFound name else .cluster e))
  | .list => do
    match ← listObjects k with
    | .ok objects => pure (.ok objects)
    | .error e => pure (.error (.cluster e))

end ResourceOperator.Cluster
