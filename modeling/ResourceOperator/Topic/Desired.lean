import ResourceOperator.Reference
import ResourceOperator.Topic.Configs

/-!
# Topics as declared

What a declaration says about a topic (`Parameters`), and what its status records of the topic in
the cloud (`Observation`). The name of a topic is no parameter: it is the external name of the
object.

They are `TopicParameters` and `TopicObservation`.
-/

namespace ResourceOperator.Topic

open Json.Reader

/-- The desired state of a topic. -/
structure Parameters where
  kafkaAdminUrl : Option String
  kafkaAdminUrlRef : Option Reference
  kafkaAdminUrlSelector : Option Selector
  partitions : Option Int
  configs : Option Configs
  deriving DecidableEq, Repr

/-- The observed state of a topic. -/
structure Observation where
  name : String
  partitions : Int
  replicationFactor : Int
  retentionMs : Int
  cleanupPolicy : String
  deriving DecidableEq, Repr

/-- Reads a desired state. -/
def Parameters.decode : Json → Option Parameters :=
  read do
    let adminUrl ← optional "kafkaAdminUrl" Json.text
    let adminUrlRef ← optional "kafkaAdminUrlRef" Reference.decode
    let selector ← optional "kafkaAdminUrlSelector" Selector.decode
    let partitions ← optional "partitions" Json.int64
    let configs ← optional "configs" Configs.decode
    pure ⟨adminUrl, adminUrlRef, selector, partitions, configs⟩

/-- Writes a desired state. -/
def Parameters.encode (p : Parameters) : Json :=
  .object (
    Json.member "configs" (p.configs.map Configs.encode) ++
    Json.member "kafkaAdminUrl" (p.kafkaAdminUrl.map .string) ++
    Json.member "kafkaAdminUrlRef" (p.kafkaAdminUrlRef.map Reference.encode) ++
    Json.member "kafkaAdminUrlSelector" (p.kafkaAdminUrlSelector.map Selector.encode) ++
    Json.member "partitions" (p.partitions.map Json.ofInt))

/-- Reads an observed state. -/
def Observation.decode : Json → Option Observation :=
  read do
    let name ← required "name" Json.text
    let partitions ← required "partitions" Json.int64
    let factor ← required "replicationFactor" Json.int64
    let retention ← required "retentionMs" Json.int64
    let policy ← required "cleanupPolicy" Json.text
    pure ⟨name, partitions, factor, retention, policy⟩

/-- Writes an observed state. -/
def Observation.encode (o : Observation) : Json :=
  .object
    [("cleanupPolicy", .string o.cleanupPolicy), ("name", .string o.name),
      ("partitions", Json.ofInt o.partitions),
      ("replicationFactor", Json.ofInt o.replicationFactor),
      ("retentionMs", Json.ofInt o.retentionMs)]

end ResourceOperator.Topic
