import ResourceOperator.Proofs.Cloud.ReadBack
import ResourceOperator.Proofs.Desired
import ResourceOperator.Proofs.Observed

/-!
# Whatever was read is read back

What is read from a document, in any of the forms in which it may stand there, is written in one
form. It is read from that again as it was. `Model` lists the types of which this is true: those of
declarations, and those that are exchanged with the cloud.

Most readers accept whatever their writers write. Numbers are read within bounds, and a document
that may be missing is not null: the records with such fields come back where they were read before,
from any document at all.

Results:
* `Subnet.Parameters.decode_encode`: each way of sizing a subnet comes back as itself.
* `Parameters.decode_encode`, `Observation.decode_encode`, `Spec.decode_encode` and
  `Status.decode_encode`: the parts of a declaration, for every kind.
* `encoded_read_back`: every type of `Model`.
-/

namespace ResourceOperator

open Json Json.Reader

/-! ## Parts of declarations -/

theorem Identity.faithful : Faithful Identity.decode Identity.encode :=
  ⟨rfl, Identity.decode_encode⟩

theorem Reference.faithful : Faithful Reference.decode Reference.encode where
  refuses := rfl
  kept r := by simp [Reference.decode, Reference.encode, -bind_pure_comp]

theorem Selector.faithful : Faithful Selector.decode Selector.encode where
  refuses := rfl
  kept s := by
    simp [Selector.decode, Selector.encode, -bind_pure_comp, -table_text_eq_some,
      defaultedField_some, faithful_texts.kept]

theorem SecretReference.faithful : Faithful SecretReference.decode SecretReference.encode where
  refuses := rfl
  kept s := by simp [SecretReference.decode, SecretReference.encode, -bind_pure_comp]

theorem DeletionPolicy.faithful : Faithful DeletionPolicy.decode DeletionPolicy.encode :=
  faithful_choice DeletionPolicy.named_name

theorem Condition.faithful : Faithful Condition.decode Condition.encode :=
  ⟨rfl, Condition.decode_encode⟩

/-! ## Networks -/

namespace Vpc

theorem AddressPrefixManagement.faithful :
    Faithful (choice AddressPrefixManagement.named) AddressPrefixManagement.encode :=
  faithful_choice AddressPrefixManagement.named_name

theorem Parameters.faithful : Faithful Parameters.decode Parameters.encode where
  refuses := rfl
  kept p := by
    simp [Parameters.decode, Parameters.encode, -bind_pure_comp, Table.get?_append,
      faithful_text.optional, faithful_flag.optional, Identity.faithful.optional,
      AddressPrefixManagement.faithful.optional]

theorem Observation.faithful : Faithful Observation.decode Observation.encode where
  refuses := rfl
  kept o := by
    simp [Observation.decode, Observation.encode, -bind_pure_comp, Table.get?_append,
      faithful_text.optional, faithful_flag.kept]

end Vpc

/-! ## Subnets -/

namespace Subnet

/-- The number of addresses that a way of sizing gives was read. -/
def Sizing.Read : Sizing → Prop
  | .byTotalCount count _ => Json.Read int64 count
  | .byCidr _ _ => True

namespace Parameters

/-- The number of addresses that is read is one that can be read. -/
theorem sizing_read {v : Json} {p : Parameters} (h : decode v = some p) : p.sizing.Read := by
  unfold decode at h
  split at h
  · split at h
    · exact yields_readObject (fun p => p.sizing.Read) h <|
        yields_after fun _ => yields_bind (yields_defaulted read_zero) fun _ hcount =>
        yields_after fun _ => yields_pure hcount
    · exact yields_readObject (fun p => p.sizing.Read) h <|
        yields_after fun _ => yields_after fun _ => yields_after fun _ => yields_pure trivial
    · cases h
  · cases h

/-- Each way of sizing is read back as itself: the name of the way tells, and the common fields
beside it are read as they are. -/
theorem decode_encode {p : Parameters} (h : p.sizing.Read) : decode p.encode = some p := by
  obtain ⟨c, sizing⟩ := p
  cases sizing with
  | byTotalCount count zone =>
    have hcount : int64 (ofInt count) = some count := int64_ofInt h
    simp [decode, encode, decodeByTotalCount, readCommon, -bind_pure_comp, Table.get?_append,
      defaultedField_some, hcount, faithful_text.optional, faithful_text.kept,
      Identity.faithful.optional, Reference.faithful.optional, Selector.faithful.optional]
  | byCidr block zone =>
    simp [decode, encode, decodeByCidr, readCommon, -bind_pure_comp, Table.get?_append,
      faithful_text.optional, Identity.faithful.optional, Reference.faithful.optional,
      Selector.faithful.optional]

end Parameters

theorem Observation.decode_encode {v : Json} {o : Observation} (h : decode v = some o) :
    decode o.encode = some o := by
  refine yields_read (fun o => decode (encode o) = some o) h <| yields_after fun _ =>
    yields_after fun _ => yields_after fun _ => yields_after fun _ => yields_after fun _ =>
    yields_after fun _ => yields_bind yields_required fun _ h₁ =>
    yields_bind yields_required fun _ h₂ => yields_after fun _ => yields_after fun _ =>
    yields_pure ?_
  simp [decode, encode, -bind_pure_comp, -requiredField_eq_some, Table.get?_append,
    requiredField_some, int64_ofInt h₁, int64_ofInt h₂, faithful_text.optional, faithful_text.kept]

end Subnet

/-! ## Service instances -/

namespace ResourceInstance

theorem Parameters.decode_encode {v : Json} {p : Parameters} (h : decode v = some p) :
    decode p.encode = some p := by
  refine yields_read (fun p => decode (encode p) = some p) h <| yields_after fun _ =>
    yields_after fun _ => yields_after fun _ => yields_after fun _ => yields_after fun _ =>
    yields_after fun _ => yields_after fun _ => yields_bind yields_lastOptional fun _ h₁ =>
    yields_after fun _ => yields_pure ?_
  simp [decode, encode, -bind_pure_comp, Table.get?_append, lastOptional_bind_named,
    defaultedField_some, optionalField_any h₁.ne_null, faithful_text.kept, faithful_flag.optional,
    faithful_textList.optional]

theorem Observation.faithful : Faithful Observation.decode Observation.encode where
  refuses := rfl
  kept o := by
    simp [Observation.decode, Observation.encode, -bind_pure_comp, Table.get?_append,
      faithful_text.optional, faithful_flag.kept]

end ResourceInstance

/-! ## Resource keys -/

namespace ResourceKey

theorem CreateParameters.faithful : Faithful CreateParameters.decode CreateParameters.encode where
  refuses := rfl
  kept p := by
    simp [CreateParameters.decode, CreateParameters.encode, -bind_pure_comp,
      faithful_text.optional]

theorem Parameters.faithful : Faithful Parameters.decode Parameters.encode where
  refuses := rfl
  kept p := by
    simp [Parameters.decode, Parameters.encode, -bind_pure_comp, Table.get?_append,
      faithful_text.optional, Reference.faithful.optional, Selector.faithful.optional,
      CreateParameters.faithful.optional]

theorem Observation.faithful : Faithful Observation.decode Observation.encode where
  refuses := rfl
  kept o := by
    simp [Observation.decode, Observation.encode, -bind_pure_comp, Table.get?_append,
      faithful_text.optional, faithful_flag.kept]

end ResourceKey

/-! ## Topics -/

namespace Topic

theorem Configs.faithful : Faithful Configs.decode Configs.encode where
  refuses := rfl
  kept c := by
    simp [Configs.decode, Configs.readEach, Configs.encode, Configs.encodeWith, ConfigKey.all,
      ConfigKey.fieldName, Configs.get, -bind_pure_comp, Table.get?_append, faithful_text.optional]

theorem Parameters.decode_encode {v : Json} {p : Parameters} (h : decode v = some p) :
    decode p.encode = some p := by
  refine yields_read (fun p => decode (encode p) = some p) h <| yields_after fun _ =>
    yields_after fun _ => yields_after fun _ => yields_bind yields_optional fun _ h₁ =>
    yields_after fun _ => yields_pure ?_
  simp [decode, encode, -bind_pure_comp, Table.get?_append, h₁.int64, faithful_text.optional,
    Reference.faithful.optional, Selector.faithful.optional, Configs.faithful.optional]

theorem Observation.decode_encode {v : Json} {o : Observation} (h : decode v = some o) :
    decode o.encode = some o := by
  refine yields_read (fun o => decode (encode o) = some o) h <| yields_after fun _ =>
    yields_bind yields_required fun _ h₁ => yields_bind yields_required fun _ h₂ =>
    yields_bind yields_required fun _ h₃ => yields_after fun _ => yields_pure ?_
  simp [decode, encode, -bind_pure_comp, -requiredField_eq_some, requiredField_some,
    int64_ofInt h₁, int64_ofInt h₂, int64_ofInt h₃, faithful_text.kept]

end Topic

/-! ## Every kind -/

variable {k : Kind}

theorem Parameters.decode_encode {v : Json} {p : Parameters k}
    (h : Parameters.decode k v = some p) :
    Parameters.decode k (Parameters.encode k p) = some p := by
  cases k with
  | vpc => exact Vpc.Parameters.faithful.kept p
  | subnet => exact Subnet.Parameters.decode_encode (Subnet.Parameters.sizing_read h)
  | resourceInstance => exact ResourceInstance.Parameters.decode_encode h
  | resourceKey => exact ResourceKey.Parameters.faithful.kept p
  | topic => exact Topic.Parameters.decode_encode h

theorem Observation.decode_encode {v : Json} {o : Observation k}
    (h : Observation.decode k v = some o) :
    Observation.decode k (Observation.encode k o) = some o := by
  cases k with
  | vpc => exact Vpc.Observation.faithful.kept o
  | subnet => exact Subnet.Observation.decode_encode h
  | resourceInstance => exact ResourceInstance.Observation.faithful.kept o
  | resourceKey => exact ResourceKey.Observation.faithful.kept o
  | topic => exact Topic.Observation.decode_encode h

theorem Spec.decode_encode {v : Json} {s : Spec k} (h : Spec.decode k v = some s) :
    Spec.decode k s.encode = some s := by
  refine yields_read (fun s : Spec k => decode k s.encode = some s) h <|
    yields_bind yields_required fun parameters hread => yields_after fun policy =>
    yields_after fun secret => yields_after fun templates => yields_pure ?_
  obtain ⟨w, hw⟩ := hread
  have hback := Parameters.decode_encode hw
  cases k <;>
  simp [decode, encode, Templates.reader, Templates.table?, -bind_pure_comp, Table.get?_append,
    -requiredField_eq_some, requiredField_some, defaultedField_some, hback,
    DeletionPolicy.faithful.kept, SecretReference.faithful.optional, faithful_texts.optional]

theorem Status.decode_encode {v : Json} {s : Status k} (h : Status.decode k v = some s) :
    Status.decode k s.encode = some s := by
  refine yields_read (fun s : Status k => decode k s.encode = some s) h <|
    yields_bind yields_optional fun observed hread => yields_after fun conditions =>
    yields_pure ?_
  have hnull : Observation.decode k .null = none := by
    cases k <;> rfl
  have hback : optionalField (Observation.decode k) (observed.map (Observation.encode k)) =
      some observed := by
    refine optionalField_map hnull fun o ho => ?_
    obtain ⟨w, hw⟩ := hread.read ho
    exact Observation.decode_encode hw
  have hconditions := list_encoded Condition.faithful.kept conditions
  simp [decode, encode, -bind_pure_comp, Table.get?_append, defaultedField_some, hback,
    hconditions]

/-! ## Every type -/

/-- The types whose values are read from documents and written as documents. -/
inductive Model where
  | identity | reference | selector | secretReference | deletionPolicy
  | condition | aspect | verdict | reason
  | parameters (k : Kind) | observation (k : Kind) | spec (k : Kind) | status (k : Kind)
  | addressPrefixManagement | keyParameters | topicConfigs
  | objectReference | objectName | networkState | catalogEntry | resourceGroup
  | network | networkRequest
  | subnet | subnetRequest | zoneReference | zoneName
  | serviceInstance | instanceRequest | instanceState | lastOperation
  | key | keyRequest | keyState
  | topic | topicRequest | reportedConfigs | configEntry

namespace Model

/-- The values of a type. -/
def Value : Model → Type
  | identity => Identity
  | reference => Reference
  | selector => Selector
  | secretReference => SecretReference
  | deletionPolicy => DeletionPolicy
  | condition => Condition
  | aspect => Condition.Aspect
  | verdict => Condition.Verdict
  | reason => Condition.Reason
  | parameters k => Parameters k
  | observation k => Observation k
  | spec k => Spec k
  | status k => Status k
  | addressPrefixManagement => Vpc.AddressPrefixManagement
  | keyParameters => ResourceKey.CreateParameters
  | topicConfigs => Topic.Configs
  | objectReference => Cloud.ObjectReference
  | objectName => Cloud.ObjectName
  | networkState => Cloud.NetworkState
  | catalogEntry => Cloud.CatalogEntry
  | resourceGroup => Cloud.ResourceGroup
  | network => Vpc.Remote
  | networkRequest => Vpc.Request
  | subnet => Subnet.Remote
  | subnetRequest => Subnet.Request
  | zoneReference => Subnet.ZoneReference
  | zoneName => Subnet.ZoneName
  | serviceInstance => ResourceInstance.Remote
  | instanceRequest => ResourceInstance.Request
  | instanceState => ResourceInstance.State
  | lastOperation => ResourceInstance.LastOperation
  | key => ResourceKey.Remote
  | keyRequest => ResourceKey.Request
  | keyState => ResourceKey.State
  | topic => Topic.Remote
  | topicRequest => Topic.Request
  | reportedConfigs => Topic.Configs
  | configEntry => Topic.ConfigEntry

/-- Reads a value of a type. -/
def decode : (m : Model) → Json → Option m.Value
  | identity => Identity.decode
  | reference => Reference.decode
  | selector => Selector.decode
  | secretReference => SecretReference.decode
  | deletionPolicy => DeletionPolicy.decode
  | condition => Condition.decode
  | aspect => choice Condition.Aspect.named
  | verdict => choice Condition.Verdict.named
  | reason => choice Condition.Reason.named
  | parameters k => Parameters.decode k
  | observation k => Observation.decode k
  | spec k => Spec.decode k
  | status k => Status.decode k
  | addressPrefixManagement => choice Vpc.AddressPrefixManagement.named
  | keyParameters => ResourceKey.CreateParameters.decode
  | topicConfigs => Topic.Configs.decode
  | objectReference => Cloud.ObjectReference.decode
  | objectName => Cloud.ObjectName.decode
  | networkState => Cloud.NetworkState.decode
  | catalogEntry => Cloud.CatalogEntry.decode
  | resourceGroup => Cloud.ResourceGroup.decode
  | network => Vpc.Remote.decode
  | networkRequest => Vpc.Request.decode
  | subnet => Subnet.Remote.decode
  | subnetRequest => Subnet.Request.decode
  | zoneReference => Subnet.ZoneReference.decode
  | zoneName => Subnet.ZoneName.decode
  | serviceInstance => ResourceInstance.Remote.decode
  | instanceRequest => ResourceInstance.Request.decode
  | instanceState => ResourceInstance.State.decode
  | lastOperation => ResourceInstance.LastOperation.decode
  | key => ResourceKey.Remote.decode
  | keyRequest => ResourceKey.Request.decode
  | keyState => ResourceKey.State.decode
  | topic => Topic.Remote.decode
  | topicRequest => Topic.Request.decode
  | reportedConfigs => Topic.Configs.decodeKafka
  | configEntry => Topic.ConfigEntry.decode

/-- Writes a value of a type. -/
def encode : (m : Model) → m.Value → Json
  | identity => Identity.encode
  | reference => Reference.encode
  | selector => Selector.encode
  | secretReference => SecretReference.encode
  | deletionPolicy => DeletionPolicy.encode
  | condition => Condition.encode
  | aspect => fun a => .string (Condition.Aspect.name a)
  | verdict => fun v => .string (Condition.Verdict.name v)
  | reason => fun r => .string (Condition.Reason.name r)
  | parameters k => Parameters.encode k
  | observation k => Observation.encode k
  | spec _ => Spec.encode
  | status _ => Status.encode
  | addressPrefixManagement => Vpc.AddressPrefixManagement.encode
  | keyParameters => ResourceKey.CreateParameters.encode
  | topicConfigs => Topic.Configs.encode
  | objectReference => Cloud.ObjectReference.encode
  | objectName => Cloud.ObjectName.encode
  | networkState => Cloud.NetworkState.encode
  | catalogEntry => Cloud.CatalogEntry.encode
  | resourceGroup => Cloud.ResourceGroup.encode
  | network => Vpc.Remote.encode
  | networkRequest => Vpc.Request.encode
  | subnet => Subnet.Remote.encode
  | subnetRequest => Subnet.Request.encode
  | zoneReference => Subnet.ZoneReference.encode
  | zoneName => Subnet.ZoneName.encode
  | serviceInstance => ResourceInstance.Remote.encode
  | instanceRequest => ResourceInstance.Request.encode
  | instanceState => ResourceInstance.State.encode
  | lastOperation => ResourceInstance.LastOperation.encode
  | key => ResourceKey.Remote.encode
  | keyRequest => ResourceKey.Request.encode
  | keyState => ResourceKey.State.encode
  | topic => Topic.Remote.encode
  | topicRequest => Topic.Request.encode
  | reportedConfigs => Topic.Configs.encodeKafka
  | configEntry => Topic.ConfigEntry.encode

/-- **Whatever was read is read back**, one type at a time. -/
theorem decode_encode {m : Model} {v : Json} {x : m.Value} (h : m.decode v = some x) :
    m.decode (m.encode x) = some x := by
  cases m with
  | identity => exact Identity.decode_encode x
  | reference => exact Reference.faithful.kept x
  | selector => exact Selector.faithful.kept x
  | secretReference => exact SecretReference.faithful.kept x
  | deletionPolicy => exact DeletionPolicy.faithful.kept x
  | condition => exact Condition.decode_encode x
  | aspect => exact Condition.Aspect.named_name x
  | verdict => exact Condition.Verdict.named_name x
  | reason => exact Condition.Reason.named_name x
  | parameters k => exact Parameters.decode_encode h
  | observation k => exact Observation.decode_encode h
  | spec k => exact Spec.decode_encode h
  | status k => exact Status.decode_encode h
  | addressPrefixManagement => exact Vpc.AddressPrefixManagement.faithful.kept x
  | keyParameters => exact ResourceKey.CreateParameters.faithful.kept x
  | topicConfigs => exact Topic.Configs.faithful.kept x
  | objectReference => exact Cloud.ObjectReference.faithful.kept x
  | objectName => exact Cloud.ObjectName.faithful.kept x
  | networkState => exact Cloud.NetworkState.faithful.kept x
  | catalogEntry => exact Cloud.CatalogEntry.faithful.kept x
  | resourceGroup => exact Cloud.ResourceGroup.faithful.kept x
  | network => exact Vpc.Remote.faithful.kept x
  | networkRequest => exact Vpc.Request.faithful.kept x
  | subnet => exact Subnet.Remote.decode_encode h
  | subnetRequest => exact Subnet.Request.decode_encode h
  | zoneReference => exact Subnet.ZoneReference.faithful.kept x
  | zoneName => exact Subnet.ZoneName.faithful.kept x
  | serviceInstance => exact ResourceInstance.Remote.decode_encode h
  | instanceRequest => exact ResourceInstance.Request.decode_encode h
  | instanceState => exact ResourceInstance.State.faithful.kept x
  | lastOperation => exact ResourceInstance.LastOperation.faithful.kept x
  | key => exact ResourceKey.Remote.faithful.kept x
  | keyRequest => exact ResourceKey.Request.decode_encode h
  | keyState => exact ResourceKey.State.faithful.kept x
  | topic => exact Topic.Remote.decode_encode h
  | topicRequest => exact Topic.Request.decode_encode h
  | reportedConfigs => exact Topic.Configs.faithful_kafka.kept x
  | configEntry => exact Topic.ConfigEntry.faithful.kept x

end Model

/-- The members of a desired subnet are read back under the name of its way of sizing. -/
theorem Subnet.Parameters.decodeWay_fields {v : Json} {p : Subnet.Parameters}
    (h : decode v = some p) : decodeWay p.branch p.fields = some p := by
  rw [← decode_branch, ← encode_eq]
  exact decode_encode (sizing_read h)

/-- **What was read is read back from what it is written as**, for every type and from whatever
document it was read. So it is written as before. In particular a request for a subnet comes back
in its own shape, and is not taken for the other one; and a desired subnet comes back under the way
of sizing that it was read with. -/
theorem encoded_read_back :
    (∀ (m : Model) (v : Json) (x : m.Value), m.decode v = some x →
      m.decode (m.encode x) = some x ∧
        ∀ y, m.decode (m.encode x) = some y → m.encode y = m.encode x) ∧
    (∀ v c count zone, Subnet.Request.decode v = some (.byTotalCount c count zone) →
      Subnet.Request.decodeByTotalCount (Subnet.Request.encode (.byTotalCount c count zone)) =
        some (.byTotalCount c count zone)) ∧
    (∀ c block zone,
      Subnet.Request.decodeByTotalCount (Subnet.Request.encode (.byCidr c block zone)) = none ∧
      Subnet.Request.decodeByCidr (Subnet.Request.encode (.byCidr c block zone)) =
        some (.byCidr c block zone)) ∧
    (∀ v p, Subnet.Parameters.decode v = some p →
      p.encode = .object [(p.branch.name, p.fields)] ∧
        Subnet.Parameters.decodeWay p.branch p.fields = some p) := by
  refine ⟨fun m v x h => ⟨Model.decode_encode h, fun y hy => ?_⟩, fun v c count zone h => ?_,
    fun c block zone => ⟨?_, ?_⟩, fun v p h => ⟨?_, ?_⟩⟩
  · rw [Model.decode_encode h] at hy
    rw [Option.some.inj hy]
  · exact Subnet.Request.decodeByTotalCount_encode (Subnet.Request.countRead_of_decode h) zone
  · exact Subnet.Request.decodeByTotalCount_byCidr c block zone
  · exact Subnet.Request.decodeByCidr_encode c block zone
  · exact Subnet.Parameters.encode_eq p
  · exact Subnet.Parameters.decodeWay_fields h

/-- A request for a subnet by block, in array form: the common members, the block, and a zone that
is null. -/
def placedRequest : Json :=
  .array [.string "sn", .null, .null, .object [("id", .string "gw-1"), ("zone", .string "z")],
    .null, .null, .array [.null, .string "crn:1", .null], .string "10.0.0.0/24", .null]

/-- The request in `placedRequest`. -/
def blockRequest : Subnet.Request :=
  .byCidr ⟨some "sn", none, none, some ⟨some "gw-1", none, none⟩, none, none,
    ⟨none, some "crn:1", none⟩⟩ "10.0.0.0/24" none

/-- Written as an object, the request is read as the same one by block. -/
theorem placedRequest_read_back :
    Subnet.Request.decode placedRequest = some blockRequest ∧
      Subnet.Request.decode blockRequest.encode = some blockRequest := by
  have hread : Subnet.Request.decode placedRequest = some blockRequest := by decide +kernel
  exact ⟨hread, (encoded_read_back.1 .subnetRequest placedRequest blockRequest hread).1⟩

end ResourceOperator
