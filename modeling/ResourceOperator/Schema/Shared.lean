import ResourceOperator.Condition
import ResourceOperator.Schema

/-!
# Schemas that kinds share

Identities, references, conditions and the frame of a declaration around the parameters and the
observation of its kind.
-/

namespace ResourceOperator.Schema

/-- An identity in one of its forms. -/
def identity : Schema :=
  oneOf
    [("id", textFor "Object id"), ("crn", textFor "Cloud resource name"),
      ("href", textFor "Canonical URL of the object")]

/-- An identity with a description. -/
def identityOf (description : String) : Schema :=
  described description identity

/-- A reference by name. -/
def reference : Schema :=
  record [need "name" (textFor "Name of the referenced object")]

/-- A selector by labels. -/
def selector : Schema :=
  record
    [orElse "matchLabels" (.object [])
      (described "Labels the selected object must carry" (table text))]

/-- A reference to a secret. -/
def secretReference : Schema :=
  described "Reference to a Kubernetes secret"
    (record
      [need "name" (textFor "Name of the secret"),
        need "namespace" (textFor "Namespace of the secret")])

/-- What happens to the remote object when its declaration is deleted. -/
def deletionPolicy : Schema :=
  described "What happens to the cloud resource when its managed resource is deleted"
    (choice ["Delete", "Orphan"])

/-- A condition. -/
def condition : Schema :=
  described "Condition for managed resource status"
    (record
      [need "type" (described "Type of condition" (choice ["Ready", "Synced"])),
        need "status"
          (described "Status: \"True\", \"False\", \"Unknown\""
            (choice ["True", "False", "Unknown"])),
        need "reason"
          (described "Machine-readable reason for a condition"
            (choice
              ["Available", "Creating", "Deleting", "Unavailable", "ReconcileSuccess",
                "ReconcileError"])),
        may "message" (textFor "Human-readable message"),
        may "lastTransitionTime"
          (textFor "Last time the status of this condition changed (RFC 3339)")])

/-- What a kind has of its own in the schema of its objects. -/
structure Parts where
  /-- What the declaration is. -/
  spec : String
  parameters : Schema
  /-- The secret that receives connection details. -/
  secret : Schema
  /-- Members of the declaration that other kinds do not have. -/
  extra : List (String × Presence × Schema)
  /-- What the status is. -/
  status : String
  observation : Schema

/-- The declaration of an object. -/
def Parts.specSchema (p : Parts) : Schema :=
  described p.spec
    (record
      ([need "forProvider" p.parameters, orElse "deletionPolicy" (.string "Delete") deletionPolicy,
        may "writeConnectionSecretToRef" p.secret] ++ p.extra))

/-- The status of an object. -/
def Parts.statusSchema (p : Parts) : Schema :=
  described p.status
    (record
      [may "atProvider" p.observation,
        orElse "conditions" (.array [])
          (described "Conditions describing the status" (list condition))])

end ResourceOperator.Schema
