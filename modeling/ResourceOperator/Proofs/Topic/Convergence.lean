import ResourceOperator.Proofs.Json.Update
import ResourceOperator.Proofs.Observed
import ResourceOperator.Proofs.Topic.Agreement

/-!
# Updates of a topic converge

The admin API is told of a new total of partitions and of configuration entries by their Kafka
names. It sets the number of partitions and the members with these names in the topic that it has on
the wire (`applied`), and the topic is read from there again. The names under which an update lists
the entries are those under which they are read, one for each entry and no two alike, so that each
declared value comes back in its own entry.

A topic on the wire is described by its members, whatever else there may be among them
(`Describes`). Setting a member keeps what the others describe.

Results:
* `Describes.decode`: members that describe a topic are read as that topic.
* `Describes.applied`: an update makes of them members that describe the topic as it is declared.
* `wire_update_converges`: so no field disagrees afterwards, and what is not mentioned is kept.
* `grownTopic_converges`: this for a topic with more partitions, an entry that changes, one that is
  new, and one that the declaration leaves open.
-/

namespace ResourceOperator.Topic

open Json Json.Reader

variable {p : Parameters} {t : Remote} {members configs : Table Json} {k : ConfigKey}

/-! ## A topic on the wire -/

theorem kafkaName_injective : Function.Injective ConfigKey.kafkaName := by
  intro k k' h
  cases k <;> cases k' <;> first | rfl | exact absurd h (by decide)

/-- The members of a configuration on the wire, as far as entries are known. -/
def DescribesConfigs (members : Table Json) (c : Configs) : Prop :=
  ∀ k : ConfigKey, Table.get? k.kafkaName members = (c.get k).map .string

/-- The members of a topic on the wire. There may be others. -/
structure Describes (members : Table Json) (t : Remote) : Prop where
  name : Table.get? "name" members = some (.string t.name)
  partitions : Table.get? "partitions" members = some (ofInt t.partitions)
  replicationFactor : Table.get? "replicationFactor" members = some (ofInt t.replicationFactor)
  retentionMs : Table.get? "retentionMs" members = some (ofInt t.retentionMs)
  cleanupPolicy : Table.get? "cleanupPolicy" members = some (.string t.cleanupPolicy)
  configs : ∃ configs, Table.get? "configs" members = some (.object configs) ∧
    DescribesConfigs configs t.configs
  replicaAssignments :
    Table.get? "replicaAssignments" members = some (.array t.replicaAssignments)

/-- A configuration is described by the members that it is written as. -/
theorem describesConfigs_encodeKafka (c : Configs) :
    DescribesConfigs c.encodeKafka.mergeable c := by
  intro k
  have hget : Table.get? k.kafkaName c.encodeKafka.mergeable =
      if k ∈ ConfigKey.all then (c.get k).map .string else none :=
    get?_fieldMembers kafkaName_injective k
  rwa [if_pos (ConfigKey.mem_all k)] at hget

/-- So is a topic. -/
theorem describes_encode (t : Remote) : Describes t.encode.mergeable t where
  name := rfl
  partitions := rfl
  replicationFactor := rfl
  retentionMs := rfl
  cleanupPolicy := rfl
  configs := ⟨t.configs.encodeKafka.mergeable, rfl, describesConfigs_encodeKafka t.configs⟩
  replicaAssignments := rfl

/-- An entry that may be missing is read from the text that it is written as. -/
theorem defaulted_text (value : Option String) :
    defaultedField none (nullable text) (value.map .string) = some value := by
  cases value <;> rfl

theorem DescribesConfigs.decode {c : Configs} (h : DescribesConfigs configs c) :
    Configs.decodeKafka (Json.object configs) = some c := by
  have hread : ∀ k : ConfigKey,
      defaultedField none (nullable text) (Table.get? k.kafkaName configs) = some (c.get k) := by
    intro k
    rw [h k]
    exact defaulted_text (c.get k)
  unfold Configs.decodeKafka Configs.readEach lastOptional
  simp [-bind_pure_comp, hread, Configs.get]

/-- Members that describe a topic are read as that topic. -/
theorem Describes.decode (h : Describes members t) (ht : Observation.InRange .topic t.observation) :
    Remote.decode (Json.object members) = some t := by
  obtain ⟨configs, hconfigs, hentries⟩ := h.configs
  obtain ⟨hpartitions, hfactor, hretention⟩ := ht
  have h₁ : int64 (ofInt t.partitions) = some t.partitions := int64_ofInt hpartitions.read
  have h₂ : int64 (ofInt t.replicationFactor) = some t.replicationFactor :=
    int64_ofInt hfactor.read
  have h₃ : int64 (ofInt t.retentionMs) = some t.retentionMs := int64_ofInt hretention.read
  unfold Remote.decode
  simp [-bind_pure_comp, h.name, h.partitions, h.replicationFactor, h.retentionMs, h.cleanupPolicy,
    hconfigs, h.replicaAssignments, defaultedField, h₁, h₂, h₃, hentries.decode, list_any]

/-! ## A topic to which an update is applied -/

/-- What an entry of an update makes of a configuration on the wire. -/
def setEntry (configs : Table Json) (entry : Json) : Table Json :=
  match ConfigEntry.decode entry with
  | some e => Table.insert e.name (.string e.value) configs
  | none => configs

/-- What a list of entries makes of a configuration on the wire. -/
def setEntries (configs : Table Json) : Json → Table Json
  | .array entries => entries.foldl setEntry configs
  | _ => configs

/-- What an update makes of a topic on the wire: the new total takes the place of the number of
partitions, and each entry sets the member of the configuration that has its name. -/
def applied (patch : Table Json) (wire : Json) : Json :=
  let members := match Table.get? "new_total_partition_count" patch with
    | some total => Table.insert "partitions" total wire.mergeable
    | none => wire.mergeable
  match Table.get? "configs" patch with
  | some entries =>
    let configs := ((wire.get? "configs").getD .null).mergeable
    .object (Table.insert "configs" (.object (setEntries configs entries)) members)
  | none => .object members

/-- A topic as it is declared; what is not declared is as it was. -/
def Remote.declared (t : Remote) (p : Parameters) : Remote :=
  { t with
    partitions := p.partitions.getD t.partitions
    configs := .ofView fun k => (p.entry k).or (t.configs.get k) }

theorem setEntry_encode (configs : Table Json) (e : ConfigEntry) :
    setEntry configs e.encode = Table.insert e.name (.string e.value) configs := rfl

/-- Entries that are set one after the other are found under their names. -/
theorem get?_foldl_setEntry {keys : List ConfigKey} {entries : List Json}
    (h : List.Forall₂ p.Lists keys entries) (configs : Table Json) :
    Table.get? k.kafkaName (entries.foldl setEntry configs) =
      if k ∈ keys then (p.entry k).map .string else Table.get? k.kafkaName configs := by
  induction h generalizing configs with
  | nil => rfl
  | @cons k' entry keys entries hentry hrest ih =>
    obtain ⟨value, hvalue, rfl⟩ := hentry
    rw [List.foldl_cons, ih, setEntry_encode, Table.get?_insert]
    by_cases hk : k = k'
    · subst hk
      simp [hvalue]
    · have hname : ¬ k'.kafkaName = k.kafkaName := fun e => hk (kafkaName_injective e).symm
      simp [hk, hname]

/-- Where an entry does not disagree, it is as it is declared already. -/
theorem entry_or_of_not_mem (h : k ∉ p.changedEntries t) :
    (p.entry k).or (t.configs.get k) = t.configs.get k := by
  have hagrees : (Field.config k).Agrees p t := by
    by_contra hne
    exact h (mem_changedEntries.mpr ((mem_changedFields _).mpr hne))
  cases hvalue : p.entry k with
  | none => rfl
  | some value => exact (hagrees value hvalue).symm

/-- The same of the number of partitions. -/
theorem partitions_getD_of_not_mem (h : .partitions ∉ p.changedFields t) :
    p.partitions.getD t.partitions = t.partitions := by
  have hagrees : Field.partitions.Agrees p t := by
    by_contra hne
    exact h ((mem_changedFields _).mpr hne)
  cases hn : p.partitions with
  | none => rfl
  | some n =>
    have hreported := hagrees n hn
    unfold Remote.partitions? at hreported
    split at hreported
    · exact (Option.some.inj hreported).symm
    · cases hreported

/-- The entries of an update make of a configuration the one that is declared. -/
theorem DescribesConfigs.set (h : DescribesConfigs configs t.configs) :
    DescribesConfigs (((p.changedFields t).filterMap p.patchEntry).foldl setEntry configs)
      (t.declared p).configs := by
  intro k
  unfold Remote.declared
  rw [get?_foldl_setEntry entries_forall₂, Configs.get_ofView]
  by_cases hk : k ∈ p.changedEntries t
  · obtain ⟨value, hvalue⟩ := declared_of_mem (mem_changedEntries.mp hk)
    rw [if_pos hk, hvalue]
    rfl
  · rw [if_neg hk, h k, entry_or_of_not_mem hk]

/-- The new total makes of the members those of a topic with the declared number of partitions. -/
theorem Describes.count (h : Describes members t) :
    Describes (match Table.get? "new_total_partition_count" (p.patch t) with
      | some total => Table.insert "partitions" total members
      | none => members) { t with partitions := p.partitions.getD t.partitions } := by
  rw [get?_patch_total]
  by_cases hp : .partitions ∈ p.changedFields t
  · rw [if_pos hp]
    cases hn : p.partitions with
    | none => exact h
    | some n =>
      have hget := fun name => Table.get?_insert "partitions" name (ofInt n) members
      obtain ⟨configs, hconfigs, hentries⟩ := h.configs
      exact
        { name := (hget _).trans h.name
          partitions := hget _
          replicationFactor := (hget _).trans h.replicationFactor
          retentionMs := (hget _).trans h.retentionMs
          cleanupPolicy := (hget _).trans h.cleanupPolicy
          configs := ⟨configs, (hget _).trans hconfigs, hentries⟩
          replicaAssignments := (hget _).trans h.replicaAssignments }
  · rw [if_neg hp, partitions_getD_of_not_mem hp]
    exact h

/-- Other members for the configuration. -/
theorem Describes.configure (h : Describes members t) {c : Configs}
    (hc : DescribesConfigs configs c) :
    Describes (Table.insert "configs" (.object configs) members) { t with configs := c } := by
  have hget := fun name => Table.get?_insert "configs" name (.object configs) members
  exact
    { name := (hget _).trans h.name
      partitions := (hget _).trans h.partitions
      replicationFactor := (hget _).trans h.replicationFactor
      retentionMs := (hget _).trans h.retentionMs
      cleanupPolicy := (hget _).trans h.cleanupPolicy
      configs := ⟨configs, hget _, hc⟩
      replicaAssignments := (hget _).trans h.replicaAssignments }

/-- An update makes of the members of a topic those of the topic as it is declared. -/
theorem Describes.applied (h : Describes members t) : ∃ members',
    applied (p.patch t) (.object members) = .object members' ∧
      Describes members' (t.declared p) := by
  obtain ⟨configs, hconfigs, hentries⟩ := h.configs
  have hcounted := h.count (p := p)
  have hfound : (Json.object members).get? "configs" = some (.object configs) := hconfigs
  unfold Topic.applied
  rw [get?_patch_configs]
  by_cases hnone : p.changedEntries t = []
  · rw [if_pos hnone]
    refine ⟨_, rfl, ?_⟩
    have hkept : (t.declared p).configs = t.configs := by
      refine Configs.ext_get fun k => ?_
      unfold Remote.declared
      rw [Configs.get_ofView]
      refine entry_or_of_not_mem ?_
      rw [hnone]
      exact List.not_mem_nil
    have hdeclared : t.declared p = { t with partitions := p.partitions.getD t.partitions } := by
      rw [← hkept]
      rfl
    rw [hdeclared]
    exact hcounted
  · rw [if_neg hnone, hfound]
    exact ⟨_, rfl, hcounted.configure hentries.set⟩

/-! ## Convergence -/

/-- A topic as it is declared agrees with the declaration, where that has no number of partitions
that counts as not reported. -/
theorem agrees_declared (hpos : ∀ n, p.partitions = some n → 0 < n) (f : Field) :
    f.Agrees p (t.declared p) := by
  cases f with
  | partitions =>
    intro n hn
    have hcount : (t.declared p).partitions = n := by
      unfold Remote.declared
      rw [hn]
      rfl
    unfold Remote.partitions?
    rw [hcount, if_pos (hpos n hn)]
  | config k =>
    intro value hvalue
    unfold Remote.declared
    rw [Configs.get_ofView, hvalue]
    rfl

/-- An update mentions an entry by its Kafka name. -/
def Mentions (patch : Table Json) (k : ConfigKey) : Prop :=
  ∃ entries, Table.get? "configs" patch = some (.array entries) ∧
    ∃ entry ∈ entries, entry.get? "name" = some (.string k.kafkaName)

/-- What disagrees is mentioned. -/
theorem mentions_of_mem (h : k ∈ p.changedEntries t) : Mentions (p.patch t) k := by
  have hne : ¬ p.changedEntries t = [] := List.ne_nil_of_mem h
  refine ⟨_, get?_patch_configs.trans (if_neg hne), ?_⟩
  obtain ⟨value, hvalue⟩ := declared_of_mem (mem_changedEntries.mp h)
  refine ⟨(ConfigEntry.mk k.kafkaName value).encode, ?_, rfl⟩
  refine List.mem_filterMap.mpr ⟨.config k, mem_changedEntries.mp h, ?_⟩
  rw [patchEntry_config, hvalue]
  rfl

/-- **Updates of a topic converge.** Where the update of a topic is applied to the topic on the wire,
what is read from there agrees with the declaration: no field disagrees, and under its name the topic
is up to date. An entry that the update does not mention is as it was, so is the number of
partitions if there is no new total, and so is all the rest. The numbers are those of 64 bits, as
every number that is read. -/
theorem wire_update_converges (hpos : ∀ n, p.partitions = some n → 0 < n)
    (hp : ∀ n, p.partitions = some n → Readable int64 n)
    (ht : Observation.InRange .topic t.observation) :
    ∃ t', Remote.decode (applied (p.patch t) t.encode) = some t' ∧
      p.changedFields t' = [] ∧ p.isUpToDate t.name t' = true ∧
      (∀ k, ¬ Mentions (p.patch t) k → t'.configs.get k = t.configs.get k) ∧
      (Table.get? "new_total_partition_count" (p.patch t) = none → t'.partitions = t.partitions) ∧
      t' = { t with partitions := t'.partitions, configs := t'.configs } := by
  obtain ⟨members, hmembers, hdescribes⟩ := (describes_encode t).applied (p := p)
  have hrange : Observation.InRange .topic (t.declared p).observation := by
    obtain ⟨hpartitions, hfactor, hretention⟩ := ht
    refine ⟨?_, hfactor, hretention⟩
    show Readable int64 (p.partitions.getD t.partitions)
    cases hn : p.partitions with
    | none => exact hpartitions
    | some n => exact hp n hn
  have hchanged : p.changedFields (t.declared p) = [] :=
    List.eq_nil_iff_forall_not_mem.mpr fun f hf =>
      (mem_changedFields f).mp hf (agrees_declared hpos f)
  refine ⟨t.declared p, ?_, hchanged, ?_, ?_, ?_, rfl⟩
  · exact (congrArg Remote.decode hmembers).trans (hdescribes.decode hrange)
  · unfold Parameters.isUpToDate
    rw [hchanged]
    simp [Remote.declared]
  · intro k hk
    unfold Remote.declared
    rw [Configs.get_ofView]
    exact entry_or_of_not_mem fun hmem => hk (mentions_of_mem hmem)
  · intro hnone
    refine partitions_getD_of_not_mem fun hmem => ?_
    rw [get?_patch_total, if_pos hmem, Option.map_eq_none_iff] at hnone
    -- what is not declared agrees
    refine (mem_changedFields .partitions).mp hmem fun n hn => ?_
    rw [hnone] at hn
    cases hn

/-- A declared topic, with more partitions than there are, another time of retention, and a size of
segments. -/
def declaredTopic : Parameters :=
  ⟨some "https://admin.events", none, none, some 6,
    some ⟨none, none, none, some "3600000", some "1073741824", none, none⟩⟩

/-- The topic in the cloud, with a cleanup policy of its own. -/
def smallTopic : Remote :=
  ⟨"orders", 3, 3, 86400000, "delete",
    ⟨some "delete", none, none, some "86400000", none, none, none⟩, []⟩

/-- The topic after its update. -/
def grownTopic : Remote :=
  { smallTopic with
    partitions := 6
    configs := ⟨some "delete", none, none, some "3600000", some "1073741824", none, none⟩ }

/-- The update says what disagrees, and it is read back where it was declared; the cleanup policy
stays. -/
theorem grownTopic_converges :
    declaredTopic.changedFields smallTopic =
        [.partitions, .config .retentionMs, .config .segmentBytes] ∧
      Remote.decode (applied (declaredTopic.patch smallTopic) smallTopic.encode) =
        some grownTopic ∧
      declaredTopic.changedFields grownTopic = [] ∧
      declaredTopic.isUpToDate "orders" grownTopic = true := by
  have hread : Remote.decode (applied (declaredTopic.patch smallTopic) smallTopic.encode) =
      some grownTopic := by decide +kernel
  have hpos : ∀ n, declaredTopic.partitions = some n → 0 < n := by
    rintro _ ⟨⟩
    decide
  have hrange : ∀ n, declaredTopic.partitions = some n → Readable int64 n := by
    rintro _ ⟨⟩
    exact ⟨ofInt 6, trivial, rfl⟩
  have hobserved : Observation.InRange .topic smallTopic.observation :=
    ⟨⟨ofInt 3, trivial, rfl⟩, ⟨ofInt 3, trivial, rfl⟩, ⟨ofInt 86400000, trivial, rfl⟩⟩
  obtain ⟨t', hdecode, hchanged, hdone, -⟩ := wire_update_converges hpos hrange hobserved
  rw [hread] at hdecode
  cases hdecode
  exact ⟨by decide +kernel, hread, hchanged, hdone⟩

end ResourceOperator.Topic
