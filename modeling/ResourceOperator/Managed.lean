import ResourceOperator.Condition
import ResourceOperator.Kind
import ResourceOperator.Metadata
import ResourceOperator.ResourceInstance.Desired
import ResourceOperator.ResourceKey.Desired
import ResourceOperator.Subnet.Desired
import ResourceOperator.Topic.Desired
import ResourceOperator.Vpc.Desired

/-!
# Declared resources

A `Managed k` is an object of the cluster that declares a remote object of kind `k`: metadata, a
spec with the desired state, and a status with what was observed and the conditions. `encode`
writes it as the cluster keeps it, and `desiredStatePatch` is the merge patch that stores its
annotations and spec.

Model of `Managed`: `conditions`, `set_condition` and `connection_secret_ref` (`connectionSecret`),
with `external_name`, `set_external_name` and `desired_state_patch`.
-/

namespace ResourceOperator

open Json.Reader

/-- The desired state that a kind declares. -/
abbrev Parameters : Kind → Type
  | .vpc => Vpc.Parameters
  | .subnet => Subnet.Parameters
  | .resourceInstance => ResourceInstance.Parameters
  | .resourceKey => ResourceKey.Parameters
  | .topic => Topic.Parameters

/-- The observed state that a kind records. -/
abbrev Observation : Kind → Type
  | .vpc => Vpc.Observation
  | .subnet => Subnet.Observation
  | .resourceInstance => ResourceInstance.Observation
  | .resourceKey => ResourceKey.Observation
  | .topic => Topic.Observation

/-- The templates for connection details, which resource keys alone have. -/
abbrev Templates : Kind → Type
  | .resourceKey => Option (Table String)
  | _ => Unit

/-- The spec of a declared resource. -/
structure Spec (k : Kind) where
  forProvider : Parameters k
  deletionPolicy : DeletionPolicy
  connectionSecret : Option SecretReference
  connectionTemplates : Templates k

/-- The status of a declared resource. -/
structure Status (k : Kind) where
  atProvider : Option (Observation k)
  conditions : List Condition

/-- A declared resource of a kind. -/
structure Managed (k : Kind) where
  metadata : Metadata
  spec : Spec k
  status : Option (Status k)

namespace Parameters

/-- Reads the desired state of a kind. -/
def decode : (k : Kind) → Json → Option (Parameters k)
  | .vpc => Vpc.Parameters.decode
  | .subnet => Subnet.Parameters.decode
  | .resourceInstance => ResourceInstance.Parameters.decode
  | .resourceKey => ResourceKey.Parameters.decode
  | .topic => Topic.Parameters.decode

/-- Writes the desired state of a kind. -/
def encode : (k : Kind) → Parameters k → Json
  | .vpc => Vpc.Parameters.encode
  | .subnet => Subnet.Parameters.encode
  | .resourceInstance => ResourceInstance.Parameters.encode
  | .resourceKey => ResourceKey.Parameters.encode
  | .topic => Topic.Parameters.encode

end Parameters

namespace Observation

/-- Reads the observed state of a kind. -/
def decode : (k : Kind) → Json → Option (Observation k)
  | .vpc => Vpc.Observation.decode
  | .subnet => Subnet.Observation.decode
  | .resourceInstance => ResourceInstance.Observation.decode
  | .resourceKey => ResourceKey.Observation.decode
  | .topic => Topic.Observation.decode

/-- Writes the observed state of a kind. -/
def encode : (k : Kind) → Observation k → Json
  | .vpc => Vpc.Observation.encode
  | .subnet => Subnet.Observation.encode
  | .resourceInstance => ResourceInstance.Observation.encode
  | .resourceKey => ResourceKey.Observation.encode
  | .topic => Topic.Observation.encode

end Observation

namespace Templates

/-- Reads the templates where a kind has them. -/
def reader : (k : Kind) → Json.Reader Json (Templates k)
  | .vpc => pure ()
  | .subnet => pure ()
  | .resourceInstance => pure ()
  | .resourceKey => optional "connectionTemplates" (Json.table Json.text)
  | .topic => pure ()

/-- The templates as an optional table. -/
def table? : (k : Kind) → Templates k → Option (Table String)
  | .vpc, _ => none
  | .subnet, _ => none
  | .resourceInstance, _ => none
  | .resourceKey, t => t
  | .topic, _ => none

end Templates

namespace Spec

/-- Reads a spec. -/
def decode (k : Kind) : Json → Option (Spec k) :=
  read do
    let parameters ← required "forProvider" (Parameters.decode k)
    let policy ← defaulted "deletionPolicy" .delete DeletionPolicy.decode
    let secret ← optional "writeConnectionSecretToRef" SecretReference.decode
    let templates ← Templates.reader k
    pure ⟨parameters, policy, secret, templates⟩

/-- Writes a spec. -/
def encode {k : Kind} (s : Spec k) : Json :=
  .object (
    Json.member "connectionTemplates"
      ((Templates.table? k s.connectionTemplates).map Json.ofTexts) ++
    [("deletionPolicy", s.deletionPolicy.encode),
      ("forProvider", Parameters.encode k s.forProvider)] ++
    Json.member "writeConnectionSecretToRef" (s.connectionSecret.map SecretReference.encode))

end Spec

namespace Status

/-- A status that records nothing. -/
def empty {k : Kind} : Status k :=
  ⟨none, []⟩

/-- Reads a status. -/
def decode (k : Kind) : Json → Option (Status k) :=
  read do
    let observed ← optional "atProvider" (Observation.decode k)
    let conditions ← defaulted "conditions" [] (Json.list Condition.decode)
    pure ⟨observed, conditions⟩

/-- Writes a status. -/
def encode {k : Kind} (s : Status k) : Json :=
  .object (
    Json.member "atProvider" (s.atProvider.map (Observation.encode k)) ++
    [("conditions", .array (s.conditions.map Condition.encode))])

end Status

namespace Managed

variable {k : Kind}

/-- Reads a declared resource. Its version and kind are not looked at. -/
def decode (k : Kind) : Json → Option (Managed k) :=
  read do
    let metadata ← required "metadata" Metadata.decode
    let spec ← required "spec" (Spec.decode k)
    let status ← optional "status" (Status.decode k)
    pure ⟨metadata, spec, status⟩

/-- Writes a declared resource. -/
def encode (r : Managed k) : Json :=
  .object (
    [("apiVersion", .string k.apiVersion), ("kind", .string k.name),
      ("metadata", r.metadata.encode), ("spec", r.spec.encode)] ++
    Json.member "status" (r.status.map Status.encode))

/-- The name to speak of the object by. -/
def displayName (r : Managed k) : String :=
  r.metadata.displayName

/-- The id of the remote object, unless it is missing or empty. -/
def externalName (r : Managed k) : Option String :=
  r.metadata.externalName

/-- Records the id of the remote object. -/
def setExternalName (name : String) (r : Managed k) : Managed k :=
  { r with metadata := r.metadata.setExternalName name }

/-- Replaces the desired state. -/
def setParameters (parameters : Parameters k) (r : Managed k) : Managed k :=
  { r with spec := { r.spec with forProvider := parameters } }

/-- Records the observed state. -/
def setObservation (observation : Observation k) (r : Managed k) : Managed k :=
  { r with status := some { (r.status.getD .empty) with atProvider := some observation } }

/-- The conditions, none when there is no status. -/
def conditions (r : Managed k) : List Condition :=
  (r.status.map Status.conditions).getD []

/-- Sets a condition. -/
def setCondition (condition : Condition) (r : Managed k) : Managed k :=
  let status := r.status.getD .empty
  { r with status := some { status with conditions := condition.set status.conditions } }

/-- The secret that receives connection details. -/
def connectionSecret (r : Managed k) : Option SecretReference :=
  r.spec.connectionSecret

/-- The merge patch that stores annotations and spec. -/
def desiredStatePatch (r : Managed k) : Json :=
  .object
    [("metadata", .object [("annotations", Json.ofTexts r.metadata.annotationTable)]),
      ("spec", r.spec.encode)]

end Managed

end ResourceOperator
