import ResourceOperator.Fill
import ResourceOperator.Topic.Desired
import ResourceOperator.Topic.Remote

/-!
# Declared and remote topics

From a declared topic to the request that creates it, and from a remote topic to what the status
records, to the desired state that would produce it, and to the update that makes it agree. A number
of partitions that is not positive counts as not reported.

The functions are `generate_request` (`Parameters.request`), `generate_observation`,
`generate_parameters`, `late_initialize`, `changed_fields`, `is_up_to_date` and `build_patch`.
-/

namespace ResourceOperator.Topic

/-- A field that can change after creation. -/
inductive Field where
  | partitions
  | config (key : ConfigKey)
  deriving DecidableEq, Repr

/-- The request that creates a topic of this name. -/
def Parameters.request (p : Parameters) (name : String) : Request :=
  { name := name
    partitions := p.partitions
    configs := match p.configs with
      | none => []
      | some c => ConfigKey.all.filterMap fun k => (c.get k).map (⟨k.kafkaName, ·⟩) }

/-- The number of partitions, if the cloud reports one. -/
def Remote.partitions? (t : Remote) : Option Int :=
  if 0 < t.partitions then some t.partitions else none

/-- What the status records of a remote topic. -/
def Remote.observation (t : Remote) : Observation :=
  { name := t.name
    partitions := t.partitions
    replicationFactor := t.replicationFactor
    retentionMs := t.retentionMs
    cleanupPolicy := t.cleanupPolicy }

/-- The desired state that would produce a remote topic behind an admin URL. -/
def Remote.parameters (t : Remote) (kafkaAdminUrl : Option String) : Parameters :=
  { kafkaAdminUrl := kafkaAdminUrl
    kafkaAdminUrlRef := none
    kafkaAdminUrlSelector := none
    partitions := t.partitions?
    configs := some t.configs }

/-- Fills unset configuration entries; an unset configuration is filled as a whole, unless the cloud
reports no entry. -/
def fillConfigs (desired : Option Configs) (observed : Configs) : Filled (Option Configs) :=
  match desired with
  | some c =>
    ⟨some (c.orElse observed),
      ConfigKey.all.any fun k => (Filled.ofOption (c.get k) (observed.get k)).changed⟩
  | none => if observed = .empty then Filled.keep none else ⟨some observed, true⟩

namespace Parameters

/-- Fills unset fields from a remote topic. -/
def lateInitialize (p : Parameters) (t : Remote) : Filled Parameters :=
  let partitions := Filled.ofOption p.partitions t.partitions?
  let configs := fillConfigs p.configs t.configs
  ⟨{ p with partitions := partitions.value, configs := configs.value },
    partitions.changed || configs.changed⟩

/-- The fields that can change and disagree with a remote topic. -/
def changedFields (p : Parameters) (t : Remote) : List Field :=
  (if p.partitions.isSome && p.partitions != t.partitions? then [.partitions] else []) ++
  (match p.configs with
    | none => []
    | some c =>
      (ConfigKey.all.filter fun k => (c.get k).isSome && c.get k != t.configs.get k).map .config)

/-- The topic has the name meant, and no field that can change disagrees. -/
def isUpToDate (p : Parameters) (name : String) (t : Remote) : Bool :=
  t.name == name && (p.changedFields t).isEmpty

/-- The entry of an update for a field, if the field is a configuration entry. -/
def patchEntry (p : Parameters) : Field → Option Json
  | .partitions => none
  | .config k => (p.configs.bind fun c => c.get k).map fun value =>
    (ConfigEntry.mk k.kafkaName value).encode

/-- The update of the fields that disagree: the new total of partitions, and the configuration
entries. -/
def patch (p : Parameters) (t : Remote) : Table Json :=
  let changed := p.changedFields t
  let entries := changed.filterMap p.patchEntry
  (if entries.isEmpty then [] else [("configs", .array entries)]) ++
  (if changed.contains .partitions then
    Json.member "new_total_partition_count" (p.partitions.map Json.ofInt) else [])

end Parameters

end ResourceOperator.Topic
