import ResourceOperator.Topic.Configs

/-!
# Topics in the cloud

A topic as the admin API of its instance reports it, and the request that creates one.

The records are `TopicDetail`, and `TopicCreateRequest` with `ConfigEntry`.
-/

namespace ResourceOperator.Topic

open Json.Reader

/-- A topic as the admin API reports it. -/
structure Remote where
  name : String
  partitions : Int
  replicationFactor : Int
  retentionMs : Int
  cleanupPolicy : String
  configs : Configs
  replicaAssignments : List Json
  deriving DecidableEq, Repr

/-- One configuration entry of a request. -/
structure ConfigEntry where
  name : String
  value : String
  deriving DecidableEq, Repr

/-- What a new topic is to be. -/
structure Request where
  name : String
  partitions : Option Int
  configs : List ConfigEntry
  deriving DecidableEq, Repr

/-- Reads a reported topic. -/
def Remote.decode {D : Type} [Json.Document D] : D → Option Remote :=
  read do
    let name ← required "name" Json.text
    let partitions ← defaulted "partitions" 0 Json.int64
    let factor ← defaulted "replicationFactor" 0 Json.int64
    let retention ← defaulted "retentionMs" 0 Json.int64
    let policy ← defaulted "cleanupPolicy" "" Json.text
    let configs ← defaulted "configs" .empty Configs.decodeKafka
    let assignments ← defaulted "replicaAssignments" [] (Json.list Json.any)
    pure ⟨name, partitions, factor, retention, policy, configs, assignments⟩

/-- Writes a reported topic. -/
def Remote.encode (t : Remote) : Json :=
  .object
    [("cleanupPolicy", .string t.cleanupPolicy), ("configs", t.configs.encodeKafka),
      ("name", .string t.name), ("partitions", Json.ofInt t.partitions),
      ("replicaAssignments", .array t.replicaAssignments),
      ("replicationFactor", Json.ofInt t.replicationFactor),
      ("retentionMs", Json.ofInt t.retentionMs)]

namespace ConfigEntry

/-- Reads an entry. -/
def decode : Json → Option ConfigEntry :=
  read do
    let name ← required "name" Json.text
    let value ← required "value" Json.text
    pure ⟨name, value⟩

/-- Writes an entry. -/
def encode (e : ConfigEntry) : Json :=
  .object [("name", .string e.name), ("value", .string e.value)]

end ConfigEntry

/-- Reads a request. -/
def Request.decode : Json → Option Request :=
  read do
    let name ← required "name" Json.text
    let partitions ← optional "partitions" Json.int64
    let configs ← defaulted "configs" [] (Json.list ConfigEntry.decode)
    pure ⟨name, partitions, configs⟩

/-- Writes a request; an empty list of entries is left out. -/
def Request.encode (r : Request) : Json :=
  let entries :=
    if r.configs.isEmpty then none else some (.array (r.configs.map ConfigEntry.encode))
  .object (
    Json.member "configs" entries ++
    [("name", .string r.name)] ++
    Json.member "partitions" (r.partitions.map Json.ofInt))

end ResourceOperator.Topic
