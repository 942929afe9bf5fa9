import ResourceOperator.Dialogue
import ResourceOperator.Failure
import ResourceOperator.Json.Merge
import ResourceOperator.Reference
import ResourceOperator.Text.Base64
import ResourceOperator.Text.Utf8

/-!
# Writes to the cluster

What a reconciliation may change in the cluster: the finalizer, spec and status of its object, and
the secret that receives connection details. `finalizerPatch` and `connectionSecret` are the bodies
of such writes.

`Call.apply` is what a write that succeeds makes of the object as the cluster stores it: patches are
merged, and the finalizers change as a list. Writes to a secret leave the object as it is.

The writes are the methods of `KubeClient`; the bodies are those of `finalizer_patch` and
`connection_secret`. `changeStored` has the guard that `add_finalizer` and `remove_finalizer` have.
-/

namespace ResourceOperator.Cluster

/-- The finalizer that keeps a declared object until its remote object is gone. -/
def finalizer : String := "finalizer.managedresource.cloud.datum.net"

/-- A write to the cluster. -/
inductive Call where
  | addFinalizer (name : String)
  | removeFinalizer (name : String)
  | patch (name : String) (patch : Json)
  | patchStatus (name : String) (status : Json)
  | applySecret (secret : SecretReference) (details : Table String)
  | deleteSecret (secret : SecretReference)

/-- The cluster, which carries out a write or fails. -/
def Writes : Interface where
  Question := Call
  Answer _ := Except ReconcileError Unit

/-! ## Bodies of writes -/

/-- The merge patch that replaces the finalizers. With a resource version, the cluster refuses it
when the object has changed since that version was read. -/
def finalizerPatch (resourceVersion : Option String) (finalizers : List String) : Json :=
  .object [("metadata", .object (
    ("finalizers", Json.ofStrings finalizers) ::
    Json.member "resourceVersion" (resourceVersion.map .string)))]

/-- The type of the secrets that publish connection details. -/
def connectionSecretType : String := "connection.cloud.datum.net/v1alpha1"

/-- The secret that publishes connection details. -/
def connectionSecret (secret : SecretReference) (details : Table String) : Json :=
  .object
    [("apiVersion", .string "v1"),
      ("data", Json.ofTexts
        (details.mapValues fun text => Text.Base64.encode (Text.Utf8.encode text))),
      ("kind", .string "Secret"),
      ("metadata", .object [("name", .string secret.name), ("namespace", .string secret.ns)]),
      ("type", .string connectionSecretType)]

/-! ## Stored objects -/

/-- The finalizers of a stored object. -/
def storedFinalizers (stored : Json) : List Json :=
  match (stored.get? "metadata").bind (·.get? "finalizers") with
  | some (.array items) => items
  | _ => []

/-- A stored object with these finalizers. -/
def withStoredFinalizers (finalizers : List Json) (stored : Json) : Json :=
  stored.merge (.object [("metadata", .object [("finalizers", .array finalizers)])])

/-- A stored object after a change of its finalizers. A change that changes nothing is not
written. -/
def changeStored (change : List Json → List Json) (stored : Json) : Json :=
  if change (storedFinalizers stored) = storedFinalizers stored then stored
  else withStoredFinalizers (change (storedFinalizers stored)) stored

/-- What a write that succeeds makes of the stored object. -/
def Call.apply : Call → Json → Json
  | .addFinalizer _, stored =>
    let own := .string finalizer
    changeStored (fun finalizers =>
      if finalizers.contains own then finalizers else finalizers ++ [own]) stored
  | .removeFinalizer _, stored => changeStored (·.filter (· != .string finalizer)) stored
  | .patch _ body, stored => stored.merge body
  | .patchStatus _ status, stored => stored.merge (.object [("status", status)])
  | .applySecret _ _, stored => stored
  | .deleteSecret _, stored => stored

end ResourceOperator.Cluster
