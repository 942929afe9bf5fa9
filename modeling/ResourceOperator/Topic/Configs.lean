import ResourceOperator.Json.Record

/-!
# Topic configuration

The configuration entries of a topic that can be declared. Each has a Kafka name, under which the
admin API knows it, and a field name, under which a declaration gives it; values are text. `get` is
the view of a configuration (`ext_get`), and `get_ofView` gives every view its configuration.

`get` and `ofView` take the places of `config_entries` and `config_slots`. Declared and reported
entries are of one type, so that nothing is left of `configs_from_cloud`.
-/

namespace ResourceOperator.Topic

open Json.Reader

/-- A configuration entry of a topic. -/
inductive ConfigKey where
  | cleanupPolicy
  | minInsyncReplicas
  | retentionBytes
  | retentionMs
  | segmentBytes
  | segmentIndexBytes
  | segmentMs
  deriving DecidableEq, Repr

/-- The values of the configuration entries, each of which may be unset. -/
structure Configs where
  cleanupPolicy : Option String
  minInsyncReplicas : Option String
  retentionBytes : Option String
  retentionMs : Option String
  segmentBytes : Option String
  segmentIndexBytes : Option String
  segmentMs : Option String
  deriving DecidableEq, Repr

namespace ConfigKey

/-- Every entry, in the order of the names. -/
def all : List ConfigKey :=
  [.cleanupPolicy, .minInsyncReplicas, .retentionBytes, .retentionMs, .segmentBytes,
    .segmentIndexBytes, .segmentMs]

theorem mem_all (k : ConfigKey) : k ∈ all := by
  cases k <;> simp [all]

/-- The name of an entry in Kafka. -/
def kafkaName : ConfigKey → String
  | .cleanupPolicy => "cleanup.policy"
  | .minInsyncReplicas => "min.insync.replicas"
  | .retentionBytes => "retention.bytes"
  | .retentionMs => "retention.ms"
  | .segmentBytes => "segment.bytes"
  | .segmentIndexBytes => "segment.index.bytes"
  | .segmentMs => "segment.ms"

/-- The name of an entry in a declaration. -/
def fieldName : ConfigKey → String
  | .cleanupPolicy => "cleanupPolicy"
  | .minInsyncReplicas => "minInsyncReplicas"
  | .retentionBytes => "retentionBytes"
  | .retentionMs => "retentionMs"
  | .segmentBytes => "segmentBytes"
  | .segmentIndexBytes => "segmentIndexBytes"
  | .segmentMs => "segmentMs"

end ConfigKey

namespace Configs

/-- A configuration with every entry unset. -/
def empty : Configs :=
  ⟨none, none, none, none, none, none, none⟩

/-- The value of an entry. -/
def get (c : Configs) : ConfigKey → Option String
  | .cleanupPolicy => c.cleanupPolicy
  | .minInsyncReplicas => c.minInsyncReplicas
  | .retentionBytes => c.retentionBytes
  | .retentionMs => c.retentionMs
  | .segmentBytes => c.segmentBytes
  | .segmentIndexBytes => c.segmentIndexBytes
  | .segmentMs => c.segmentMs

/-- The configuration with a given view. -/
def ofView (view : ConfigKey → Option String) : Configs :=
  ⟨view .cleanupPolicy, view .minInsyncReplicas, view .retentionBytes, view .retentionMs,
    view .segmentBytes, view .segmentIndexBytes, view .segmentMs⟩

@[simp] theorem get_ofView (view : ConfigKey → Option String) (k : ConfigKey) :
    (ofView view).get k = view k := by
  cases k <;> rfl

@[simp] theorem ofView_get (c : Configs) : ofView c.get = c := rfl

/-- Two configurations with one view are equal. -/
theorem ext_get {a b : Configs} (h : ∀ k, a.get k = b.get k) : a = b := by
  rw [← ofView_get a, ← ofView_get b, funext h]

/-- Fills the unset entries from another configuration. -/
def orElse (c observed : Configs) : Configs :=
  ofView fun k => (c.get k).or (observed.get k)

/-- Reads the entries with a given reader for each. -/
def readEach {D : Type} (entry : ConfigKey → Json.Reader D (Option String)) :
    Json.Reader D Configs := do
  let cleanup ← entry .cleanupPolicy
  let replicas ← entry .minInsyncReplicas
  let retentionBytes ← entry .retentionBytes
  let retentionMs ← entry .retentionMs
  let segmentBytes ← entry .segmentBytes
  let indexBytes ← entry .segmentIndexBytes
  let segmentMs ← entry .segmentMs
  pure ⟨cleanup, replicas, retentionBytes, retentionMs, segmentBytes, indexBytes, segmentMs⟩

/-- Reads a configuration under the names of a declaration. -/
def decode : Json → Option Configs :=
  read (readEach fun k => optional k.fieldName Json.text)

/-- Reads a configuration under the names of Kafka. -/
def decodeKafka {D : Type} [Json.Document D] : D → Option Configs :=
  read (readEach fun k => lastOptional k.kafkaName Json.text)

/-- Writes the entries that are set under given names. -/
def encodeWith (name : ConfigKey → String) (c : Configs) : Json :=
  .object (ConfigKey.all.flatMap fun k => Json.member (name k) ((c.get k).map .string))

/-- Writes a configuration under the names of a declaration. -/
def encode : Configs → Json :=
  encodeWith ConfigKey.fieldName

/-- Writes a configuration under the names of Kafka. -/
def encodeKafka : Configs → Json :=
  encodeWith ConfigKey.kafkaName

end Configs

end ResourceOperator.Topic
