import ResourceOperator.Json.Record
import ResourceOperator.Time.Instant

/-!
# Metadata of cluster objects

What the cluster keeps about every object besides its spec and status: names, labels, annotations,
owners, finalizers and times. Reading ignores unknown members and takes null for absent; writing
leaves absent members out.

`externalName` is the annotation that ties a declared object to its remote object.

The record is `ObjectMeta`; the accessors are `external_name`, `set_external_name` and what
`is_deleting` and `finalizers` read.
-/

namespace ResourceOperator

open Json.Reader

/-- An owner of a cluster object. -/
structure OwnerReference where
  apiVersion : String
  blockOwnerDeletion : Option Bool
  controller : Option Bool
  kind : String
  name : String
  uid : String
  deriving DecidableEq, Repr

/-- Which fields one manager has set. -/
structure ManagedFields where
  apiVersion : Option String
  fieldsType : Option String
  fieldsV1 : Option Json
  manager : Option String
  operation : Option String
  subresource : Option String
  time : Option Instant
  deriving DecidableEq, Repr

/-- Metadata of a cluster object. -/
structure Metadata where
  annotations : Option (Table String)
  creationTimestamp : Option Instant
  deletionGracePeriodSeconds : Option Int
  deletionTimestamp : Option Instant
  finalizers : Option (List String)
  generateName : Option String
  generation : Option Int
  labels : Option (Table String)
  managedFields : Option (List ManagedFields)
  name : Option String
  ns : Option String
  ownerReferences : Option (List OwnerReference)
  resourceVersion : Option String
  selfLink : Option String
  uid : Option String
  deriving DecidableEq, Repr

/-- Reads an instant from text. -/
def Instant.decode : Json → Option Instant
  | .string s => Instant.parse s
  | _ => none

/-- Writes an instant as text. -/
def Instant.encode (t : Instant) : Json :=
  .string t.render

namespace OwnerReference

/-- Reads an owner; missing texts are empty. -/
def decode : Json → Option OwnerReference :=
  readObject do
    let apiVersion ← optional "apiVersion" Json.text
    let block ← optional "blockOwnerDeletion" Json.flag
    let controller ← optional "controller" Json.flag
    let kind ← optional "kind" Json.text
    let name ← optional "name" Json.text
    let uid ← optional "uid" Json.text
    pure ⟨apiVersion.getD "", block, controller, kind.getD "", name.getD "", uid.getD ""⟩

/-- Writes an owner. -/
def encode (o : OwnerReference) : Json :=
  .object (
    [("apiVersion", .string o.apiVersion)] ++
    Json.member "blockOwnerDeletion" (o.blockOwnerDeletion.map .bool) ++
    Json.member "controller" (o.controller.map .bool) ++
    [("kind", .string o.kind), ("name", .string o.name), ("uid", .string o.uid)])

end OwnerReference

namespace ManagedFields

/-- Reads an entry of the managers' record. -/
def decode : Json → Option ManagedFields :=
  readObject do
    let apiVersion ← optional "apiVersion" Json.text
    let fieldsType ← optional "fieldsType" Json.text
    let fieldsV1 ← optional "fieldsV1" Json.any
    let manager ← optional "manager" Json.text
    let operation ← optional "operation" Json.text
    let subresource ← optional "subresource" Json.text
    let time ← optional "time" Instant.decode
    pure ⟨apiVersion, fieldsType, fieldsV1, manager, operation, subresource, time⟩

/-- Writes an entry of the managers' record. -/
def encode (m : ManagedFields) : Json :=
  .object (
    Json.member "apiVersion" (m.apiVersion.map .string) ++
    Json.member "fieldsType" (m.fieldsType.map .string) ++
    Json.member "fieldsV1" m.fieldsV1 ++
    Json.member "manager" (m.manager.map .string) ++
    Json.member "operation" (m.operation.map .string) ++
    Json.member "subresource" (m.subresource.map .string) ++
    Json.member "time" (m.time.map Instant.encode))

end ManagedFields

namespace Metadata

/-- Metadata with nothing set. -/
def empty : Metadata :=
  ⟨none, none, none, none, none, none, none, none, none, none, none, none, none, none, none⟩

/-- Reads metadata. -/
def decode : Json → Option Metadata :=
  readObject do
    let annotations ← optional "annotations" (Json.table Json.text)
    let creationTimestamp ← optional "creationTimestamp" Instant.decode
    let grace ← optional "deletionGracePeriodSeconds" Json.int64
    let deletionTimestamp ← optional "deletionTimestamp" Instant.decode
    let finalizers ← optional "finalizers" (Json.list Json.text)
    let generateName ← optional "generateName" Json.text
    let generation ← optional "generation" Json.int64
    let labels ← optional "labels" (Json.table Json.text)
    let managedFields ← optional "managedFields" (Json.list ManagedFields.decode)
    let name ← optional "name" Json.text
    let ns ← optional "namespace" Json.text
    let owners ← optional "ownerReferences" (Json.list OwnerReference.decode)
    let resourceVersion ← optional "resourceVersion" Json.text
    let selfLink ← optional "selfLink" Json.text
    let uid ← optional "uid" Json.text
    pure ⟨annotations, creationTimestamp, grace, deletionTimestamp, finalizers, generateName,
      generation, labels, managedFields, name, ns, owners, resourceVersion, selfLink, uid⟩

/-- Writes metadata. -/
def encode (m : Metadata) : Json :=
  .object (
    Json.member "annotations" (m.annotations.map Json.ofTexts) ++
    Json.member "creationTimestamp" (m.creationTimestamp.map Instant.encode) ++
    Json.member "deletionGracePeriodSeconds" (m.deletionGracePeriodSeconds.map Json.ofInt) ++
    Json.member "deletionTimestamp" (m.deletionTimestamp.map Instant.encode) ++
    Json.member "finalizers" (m.finalizers.map Json.ofStrings) ++
    Json.member "generateName" (m.generateName.map .string) ++
    Json.member "generation" (m.generation.map Json.ofInt) ++
    Json.member "labels" (m.labels.map Json.ofTexts) ++
    Json.member "managedFields"
      (m.managedFields.map fun xs => .array (xs.map ManagedFields.encode)) ++
    Json.member "name" (m.name.map .string) ++
    Json.member "namespace" (m.ns.map .string) ++
    Json.member "ownerReferences"
      (m.ownerReferences.map fun xs => .array (xs.map OwnerReference.encode)) ++
    Json.member "resourceVersion" (m.resourceVersion.map .string) ++
    Json.member "selfLink" (m.selfLink.map .string) ++
    Json.member "uid" (m.uid.map .string))

/-- The name to speak of the object by: its own, else the stem for a generated one. -/
def displayName (m : Metadata) : String :=
  (m.name.or m.generateName).getD ""

/-- The annotation that holds the id of the remote object. -/
def externalNameKey : String := "cloud.datum.net/external-name"

/-- The annotations, none when unset. -/
def annotationTable (m : Metadata) : Table String :=
  m.annotations.getD []

/-- The labels, none when unset. -/
def labelTable (m : Metadata) : Table String :=
  m.labels.getD []

/-- The id of the remote object, unless it is missing or empty. -/
def externalName (m : Metadata) : Option String :=
  (Table.get? externalNameKey m.annotationTable).filter fun name => !name.isEmpty

/-- Records the id of the remote object. -/
def setExternalName (name : String) (m : Metadata) : Metadata :=
  { m with annotations := some (Table.insert externalNameKey name m.annotationTable) }

/-- Deletion of the object has been requested. -/
def isDeleted (m : Metadata) : Bool :=
  m.deletionTimestamp.isSome

/-- The finalizers, none when unset. -/
def finalizerList (m : Metadata) : List String :=
  m.finalizers.getD []

theorem externalName_setExternalName (name : String) (m : Metadata) :
    (m.setExternalName name).externalName = if name.isEmpty then none else some name := by
  unfold externalName setExternalName annotationTable
  rw [Option.getD_some, Table.get?_insert_self]
  cases h : name.isEmpty <;> simp [Option.filter, h]

end Metadata

end ResourceOperator
