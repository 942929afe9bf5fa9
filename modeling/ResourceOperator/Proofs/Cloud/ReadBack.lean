import ResourceOperator.Cloud.Catalog
import ResourceOperator.Proofs.Json.ReadBack
import ResourceOperator.ResourceInstance.Remote
import ResourceOperator.ResourceKey.Remote
import ResourceOperator.Subnet.Remote
import ResourceOperator.Topic.Remote
import ResourceOperator.Vpc.Remote

/-!
# What is exchanged with the cloud is read back

Answers and requests, kind by kind. States come back although every unknown name is read as the
unknown state, since they are written under their own names.

A request for a subnet carries no mark of its shape, and the first shape that can be read counts. A
request by block is not taken for one by address count: it is written without a count, which the
other shape needs (`Subnet.Request.decodeByTotalCount_byCidr`).
-/

namespace ResourceOperator

open Json Json.Reader

namespace Cloud

theorem NetworkState.faithful : Faithful NetworkState.decode NetworkState.encode :=
  faithful_choice fun s => congrArg some s.named_name

theorem ObjectReference.faithful : Faithful ObjectReference.decode ObjectReference.encode where
  refuses := rfl
  kept r := by
    simp [ObjectReference.decode, ObjectReference.encode, -bind_pure_comp, defaultedField_some]

theorem ObjectName.faithful : Faithful ObjectName.decode ObjectName.encode where
  refuses := rfl
  kept n := by
    simp [ObjectName.decode, ObjectName.encode, -bind_pure_comp, Table.get?_append,
      faithful_text.optional]

theorem CatalogEntry.faithful : Faithful CatalogEntry.decode CatalogEntry.encode where
  refuses := rfl
  kept e := by
    simp [CatalogEntry.decode, CatalogEntry.encode, -bind_pure_comp, defaultedField_some]

theorem ResourceGroup.faithful : Faithful ResourceGroup.decode ResourceGroup.encode where
  refuses := rfl
  kept g := by
    simp [ResourceGroup.decode, ResourceGroup.encode, -bind_pure_comp, defaultedField_some]

end Cloud

open Cloud

/-! ## Networks -/

namespace Vpc

theorem Remote.faithful : Faithful Remote.decode Remote.encode where
  refuses := rfl
  kept v := by
    simp [Remote.decode, Remote.encode, -bind_pure_comp, Table.get?_append, lastOptional_bind_named,
      defaultedField_some, faithful_text.optional, faithful_flag.kept,
      ObjectReference.faithful.optional, NetworkState.faithful.kept]

theorem Request.faithful : Faithful Request.decode Request.encode where
  refuses := rfl
  kept r := by
    simp [Request.decode, Request.encode, -bind_pure_comp, Table.get?_append,
      faithful_text.optional, faithful_flag.optional, ObjectName.faithful.optional]

end Vpc

/-! ## Subnets -/

namespace Subnet

theorem ZoneReference.faithful : Faithful ZoneReference.decode ZoneReference.encode where
  refuses := rfl
  kept z := by
    simp [ZoneReference.decode, ZoneReference.encode, -bind_pure_comp, defaultedField_some]

theorem ZoneName.faithful : Faithful ZoneName.decode ZoneName.encode where
  refuses := rfl
  kept z := by simp [ZoneName.decode, ZoneName.encode, -bind_pure_comp]

/-- A subnet whose counts can be read comes back. -/
theorem Remote.read_back {s : Remote} (h₁ : Json.Read int64 s.availableIpv4AddressCount)
    (h₂ : Json.Read int64 s.totalIpv4AddressCount) : decode s.encode = some s := by
  simp [decode, encode, -bind_pure_comp, Table.get?_append, lastOptional_bind_named,
    defaultedField_some, int64_ofInt h₁, int64_ofInt h₂, faithful_text.optional,
    ObjectReference.faithful.optional, ObjectReference.faithful.kept, NetworkState.faithful.kept,
    ZoneReference.faithful.kept]

/-- The counts of a subnet that was read can be read. -/
theorem Remote.counts_read {D : Type} [Document D] {d : D} {s : Remote} (h : decode d = some s) :
    Json.Read int64 s.availableIpv4AddressCount ∧ Json.Read int64 s.totalIpv4AddressCount :=
  yields_read (fun s : Remote => Json.Read int64 s.availableIpv4AddressCount ∧
      Json.Read int64 s.totalIpv4AddressCount) h <|
    yields_after fun _ => yields_after fun _ => yields_after fun _ => yields_after fun _ =>
    yields_after fun _ => yields_after fun _ =>
    yields_bind (yields_defaulted_of read_zero read_of_int64) fun _ h₁ =>
    yields_bind (yields_defaulted_of read_zero read_of_int64) fun _ h₂ => yields_after fun _ =>
    yields_after fun _ => yields_after fun _ => yields_after fun _ => yields_after fun _ =>
    yields_after fun _ => yields_after fun _ => yields_after fun _ => yields_pure ⟨h₁, h₂⟩

theorem Remote.decode_encode {v : Json} {s : Remote} (h : decode v = some s) :
    decode s.encode = some s :=
  read_back (counts_read h).1 (counts_read h).2

namespace Request

/-- A request by address count is read back as one. -/
theorem decodeByTotalCount_encode {c : RequestCommon} {count : Int} (h : Json.Read int64 count)
    (zone : ZoneName) : decodeByTotalCount (encode (.byTotalCount c count zone)) =
      some (.byTotalCount c count zone) := by
  simp [decodeByTotalCount, readCommon, encode, common, -bind_pure_comp, -requiredField_eq_some,
    Table.get?_append, requiredField_some, int64_ofInt h, faithful_text.optional,
    ObjectName.faithful.optional, ObjectName.faithful.kept, ZoneName.faithful.kept]

/-- A request by block cannot be read as one by address count. -/
theorem decodeByTotalCount_byCidr (c : RequestCommon) (block : String) (zone : Option ZoneName) :
    decodeByTotalCount (encode (.byCidr c block zone)) = none := by
  refine Option.eq_none_iff_forall_ne_some.mpr fun r hr => ?_
  simp [decodeByTotalCount, readCommon, encode, common, -bind_pure_comp, Table.get?_append] at hr

/-- It is read back as one by block. -/
theorem decodeByCidr_encode (c : RequestCommon) (block : String) (zone : Option ZoneName) :
    decodeByCidr (encode (.byCidr c block zone)) = some (.byCidr c block zone) := by
  simp [decodeByCidr, readCommon, encode, common, -bind_pure_comp, -requiredField_eq_some,
    Table.get?_append, requiredField_some, faithful_text.optional, faithful_text.kept,
    ObjectName.faithful.optional, ObjectName.faithful.kept, ZoneName.faithful.optional]

/-- The number of addresses that a request gives was read. -/
def CountRead : Request → Prop
  | .byTotalCount _ count _ => Json.Read int64 count
  | .byCidr _ _ _ => True

theorem countRead_of_decode {v : Json} {r : Request} (h : decode v = some r) : r.CountRead := by
  rcases Option.or_eq_some_iff.mp h with h | ⟨-, h⟩
  · exact yields_read CountRead h <| yields_after fun _ =>
      yields_bind yields_required fun _ hcount => yields_after fun _ => yields_pure hcount
  · exact yields_read CountRead h <| yields_after fun _ => yields_after fun _ =>
      yields_after fun _ => yields_pure trivial

/-- A request comes back in the shape it has. -/
theorem decode_encode {v : Json} {r : Request} (h : decode v = some r) :
    decode r.encode = some r := by
  have hread := countRead_of_decode h
  cases r with
  | byTotalCount c count zone =>
    rw [decode, decodeByTotalCount_encode hread]
    rfl
  | byCidr c block zone =>
    rw [decode, decodeByTotalCount_byCidr, decodeByCidr_encode]
    rfl

end Request

end Subnet

/-! ## Service instances -/

namespace ResourceInstance

theorem State.faithful : Faithful State.decode State.encode :=
  faithful_choice fun s => congrArg some s.named_name

theorem LastOperation.faithful : Faithful LastOperation.decode LastOperation.encode where
  refuses := rfl
  kept o := by
    simp [LastOperation.decode, LastOperation.encode, -bind_pure_comp, Table.get?_append,
      lastOptional_bind_named, defaultedField_some, faithful_text.optional]

/-- An instance whose parameters are not null comes back. -/
theorem Remote.read_back {r : Remote} (h : r.parameters ≠ some .null) :
    decode r.encode = some r := by
  simp [decode, encode, -bind_pure_comp, Table.get?_append, lastOptional_bind_named,
    defaultedField_some, optionalField_any h, faithful_text.optional, faithful_flag.kept,
    faithful_textList.kept, State.faithful.kept, LastOperation.faithful.optional]

/-- What is read of the parameters of an instance. -/
theorem Remote.parameters_of_read {D : Type} [Document D] {post : Option Json → Prop}
    (hp : (lastOptional "parameters" any : Reader D (Option Json)).Yields post) {d : D} {r : Remote}
    (h : decode d = some r) : post r.parameters :=
  yields_read (fun r : Remote => post r.parameters) h <| yields_after fun _ =>
    yields_after fun _ => yields_after fun _ => yields_after fun _ => yields_after fun _ =>
    yields_after fun _ => yields_after fun _ => yields_after fun _ => yields_after fun _ =>
    yields_after fun _ => yields_after fun _ => yields_after fun _ => yields_after fun _ =>
    yields_after fun _ => yields_bind hp fun _ hparameters => yields_after fun _ =>
    yields_after fun _ => yields_after fun _ => yields_after fun _ => yields_pure hparameters

theorem Remote.decode_encode {v : Json} {r : Remote} (h : decode v = some r) :
    decode r.encode = some r :=
  read_back (parameters_of_read yields_lastOptional h).ne_null

theorem Request.decode_encode {v : Json} {r : Request} (h : decode v = some r) :
    decode r.encode = some r := by
  refine yields_read (fun r => decode (encode r) = some r) h <| yields_after fun _ =>
    yields_after fun _ => yields_after fun _ => yields_after fun _ => yields_after fun _ =>
    yields_after fun _ => yields_bind yields_optional fun _ h₁ => yields_after fun _ =>
    yields_pure ?_
  simp [decode, encode, -bind_pure_comp, Table.get?_append, optionalField_any h₁.ne_null,
    faithful_flag.optional, faithful_textList.optional]

end ResourceInstance

/-! ## Resource keys -/

namespace ResourceKey

theorem State.faithful : Faithful State.decode State.encode :=
  faithful_choice fun s => congrArg some s.named_name

theorem Remote.faithful : Faithful Remote.decode Remote.encode where
  refuses := rfl
  kept k := by
    simp [Remote.decode, Remote.encode, -bind_pure_comp, Table.get?_append, lastOptional_bind_named,
      defaultedField_some, any, faithful_text.optional, faithful_flag.kept, State.faithful.kept]

theorem Request.decode_encode {v : Json} {r : Request} (h : decode v = some r) :
    decode r.encode = some r := by
  refine yields_read (fun r => decode (encode r) = some r) h <| yields_after fun _ =>
    yields_after fun _ => yields_after fun _ => yields_bind yields_optional fun _ h₁ =>
    yields_pure ?_
  simp [decode, encode, -bind_pure_comp, Table.get?_append, optionalField_any h₁.ne_null,
    faithful_text.optional]

end ResourceKey

/-! ## Topics -/

namespace Topic

theorem Configs.faithful_kafka : Faithful Configs.decodeKafka Configs.encodeKafka where
  refuses := rfl
  kept c := by
    simp [Configs.decodeKafka, Configs.readEach, Configs.encodeKafka, Configs.encodeWith,
      ConfigKey.all, ConfigKey.kafkaName, Configs.get, -bind_pure_comp, Table.get?_append,
      lastOptional_bind_named, faithful_text.optional]

theorem ConfigEntry.faithful : Faithful ConfigEntry.decode ConfigEntry.encode where
  refuses := rfl
  kept e := by simp [ConfigEntry.decode, ConfigEntry.encode, -bind_pure_comp]

/-- The numbers of a topic can be read. -/
structure Remote.NumbersRead (t : Remote) : Prop where
  partitions : Json.Read int64 t.partitions
  replicationFactor : Json.Read int64 t.replicationFactor
  retentionMs : Json.Read int64 t.retentionMs

/-- A topic whose numbers can be read comes back. -/
theorem Remote.NumbersRead.read_back {t : Remote} (h : t.NumbersRead) :
    decode t.encode = some t := by
  simp [decode, encode, -bind_pure_comp, defaultedField_some, int64_ofInt h.partitions,
    int64_ofInt h.replicationFactor, int64_ofInt h.retentionMs, Configs.faithful_kafka.kept,
    list_any]

theorem Remote.numbers_read {D : Type} [Document D] {d : D} {t : Remote} (h : decode d = some t) :
    t.NumbersRead :=
  yields_read NumbersRead h <| yields_after fun _ =>
    yields_bind (yields_defaulted_of read_zero read_of_int64) fun _ h₁ =>
    yields_bind (yields_defaulted_of read_zero read_of_int64) fun _ h₂ =>
    yields_bind (yields_defaulted_of read_zero read_of_int64) fun _ h₃ => yields_after fun _ =>
    yields_after fun _ => yields_after fun _ => yields_pure ⟨h₁, h₂, h₃⟩

theorem Remote.decode_encode {v : Json} {t : Remote} (h : decode v = some t) :
    decode t.encode = some t :=
  (numbers_read h).read_back

/-- A request comes back with its entries, which are left out where there are none. -/
theorem Request.decode_encode {v : Json} {r : Request} (h : decode v = some r) :
    decode r.encode = some r := by
  refine yields_read (fun r => decode (encode r) = some r) h <| yields_after fun _ =>
    yields_bind yields_optional fun _ h₁ => yields_after fun entries => yields_pure ?_
  have hentries := list_encoded ConfigEntry.faithful.kept entries
  cases entries with
  | nil => simp [decode, encode, -bind_pure_comp, h₁.int64, defaultedField]
  | cons e rest =>
    simp [decode, encode, -bind_pure_comp, -List.map_cons, h₁.int64, defaultedField_some, hentries]

end Topic

end ResourceOperator
