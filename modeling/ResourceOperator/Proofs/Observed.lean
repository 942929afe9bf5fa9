import ResourceOperator.Proofs.Json.ReadBack
import ResourceOperator.Proofs.Managed

/-!
# Statuses written back

An observed state is written without the fields that are unset, and a merge keeps what it does not
name. So a field that is unset now and was set before is still there when the status is read again.
`Observation.Uncovered` says that nothing of the kind is in the way.

Results:
* `Observation.decode_merge`: an observed state is read back exactly where its unset fields are
  unset in what it is written onto.
* `Condition.decode_encode`: conditions are read back always.
* `Status.readFrom_merge`: so a whole status is read back from a stored object exactly where that
  has nothing in the way.
-/

namespace ResourceOperator

open Json

namespace Json

/-- A text that must be there is read back. -/
@[simp] theorem required_text_merge {old : Option Json} {s : String} :
    requiredField text (mergeField old (some (.string s))) = some s := by
  simp [mergeField, merge]

@[simp] theorem required_flag_merge {old : Option Json} {b : Bool} :
    requiredField flag (mergeField old (some (.bool b))) = some b := by
  simp [mergeField, merge, flag]

@[simp] theorem required_int64_merge {old : Option Json} {i : Int} :
    requiredField int64 (mergeField old (some (ofInt i))) = some i ↔ Readable int64 i := by
  have hw : ofInt i ≠ .null := nofun
  rw [mergeField_some hw, requiredField, Option.bind_some]
  constructor
  · exact fun h => ⟨ofInt i, trivial, h⟩
  · intro h
    have hf : Fits int64 .null i := h.fits_null
    have hi := persistent_int64.kept hf
    exact hi

/-- A member has no value when it is missing or null. -/
theorem getD_eq_null {old : Option Json} :
    old.getD .null = .null ↔ old = none ∨ old = some .null := by
  cases old <;> simp

/-- A text that may be missing is read back, unless it is missing now and there was one. -/
@[simp] theorem optional_text_merge {old : Option Json} {a : Option String} :
    optionalField text (mergeField old (a.map .string)) = some a ↔
      (a = none → old.getD .null = .null) := by
  cases a with
  | none => simp [getD_eq_null]
  | some s => simp [mergeField, merge]

end Json

/-- The fields of an observed state that may be unset, by name. -/
def Observation.optionals : (k : Kind) → Observation k → Table (Option String)
  | .vpc, o =>
    [("createdAt", Vpc.Observation.createdAt o), ("defaultNetworkAcl", o.defaultNetworkAcl),
      ("defaultRoutingTable", o.defaultRoutingTable),
      ("defaultSecurityGroup", o.defaultSecurityGroup), ("resourceGroup", o.resourceGroup)]
  | .subnet, o => [("createdAt", Subnet.Observation.createdAt o)]
  | .resourceInstance, o =>
    [("dashboardUrl", ResourceInstance.Observation.dashboardUrl o), ("createdAt", o.createdAt),
      ("lastOperation", o.lastOperation)]
  | .resourceKey, o =>
    [("createdAt", ResourceKey.Observation.createdAt o), ("kafkaAdminUrl", o.kafkaAdminUrl)]
  | .topic, _ => []

/-- The fields that are unset have no value in the document. -/
def Observation.Uncovered {k : Kind} (o : Observation k) (target : Json) : Prop :=
  ∀ e ∈ Observation.optionals k o, e.2 = none → (target.get? e.1).getD .null = .null

/-- The numbers of an observed state are in the range of those that are read. -/
def Observation.InRange : (k : Kind) → Observation k → Prop
  | .subnet, o =>
    Readable int64 (Subnet.Observation.availableIpv4AddressCount o) ∧
      Readable int64 (Subnet.Observation.totalIpv4AddressCount o)
  | .topic, o =>
    Readable int64 (Topic.Observation.partitions o) ∧
      Readable int64 (Topic.Observation.replicationFactor o) ∧
      Readable int64 (Topic.Observation.retentionMs o)
  | _, _ => True

open Reader in
/-- The numbers of an observed state that was read are in range. -/
theorem Observation.inRange_of_readable {k : Kind} {o : Observation k}
    (h : Readable (Observation.decode k) o) : Observation.InRange k o := by
  cases k with
  | subnet =>
    exact fits_of_read (InRange .subnet) h.fits_null <|
      fits_bind fits_required fun _ _ => fits_bind fits_required fun _ _ =>
      fits_bind fits_required fun _ _ => fits_bind fits_required fun _ _ =>
      fits_bind fits_optional fun _ _ => fits_bind fits_required fun _ _ =>
      fits_bind fits_required fun _ h₁ => fits_bind fits_required fun _ h₂ =>
      fits_bind fits_required fun _ _ => fits_bind fits_required fun _ _ =>
      fits_pure ⟨h₁.readable, h₂.readable⟩
  | topic =>
    exact fits_of_read (InRange .topic) h.fits_null <|
      fits_bind fits_required fun _ _ => fits_bind fits_required fun _ h₁ =>
      fits_bind fits_required fun _ h₂ => fits_bind fits_required fun _ h₃ =>
      fits_bind fits_required fun _ _ => fits_pure ⟨h₁.readable, h₂.readable, h₃.readable⟩
  | _ => trivial

/-- An observed state is read back exactly where its unset fields have no value. -/
theorem Observation.decode_merge {k : Kind} {o : Observation k} (h : InRange k o) (target : Json) :
    Observation.decode k (target.merge (Observation.encode k o)) = some o ↔ o.Uncovered target := by
  rw [Uncovered]
  simp only [get?_eq_mergeable]
  cases k with
  | vpc =>
    obtain ⟨id, crn, href, status, createdAt, classic, acl, table, security, group⟩ := o
    simp [Observation.decode, Observation.encode, Vpc.Observation.decode, Vpc.Observation.encode,
      merge_object, -bind_pure_comp, optionals]
  | subnet =>
    obtain ⟨id, crn, href, status, createdAt, block, available, total, zone, vpc⟩ := o
    obtain ⟨h₁, h₂⟩ : Readable int64 available ∧ Readable int64 total := h
    simp [Observation.decode, Observation.encode, Subnet.Observation.decode,
      Subnet.Observation.encode, merge_object, -bind_pure_comp, -requiredField_eq_some, optionals,
      h₁, h₂]
  | resourceInstance =>
    obtain ⟨id, guid, crn, url, account, group, plan, target', state, locked, dashboard, createdAt,
      operation⟩ := o
    simp [Observation.decode, Observation.encode, ResourceInstance.Observation.decode,
      ResourceInstance.Observation.encode, merge_object, -bind_pure_comp, optionals]
  | resourceKey =>
    obtain ⟨id, guid, crn, url, account, group, source, state, compatible, createdAt, adminUrl⟩ := o
    simp [Observation.decode, Observation.encode, ResourceKey.Observation.decode,
      ResourceKey.Observation.encode, merge_object, -bind_pure_comp, optionals]
  | topic =>
    obtain ⟨name, partitions, factor, retention, policy⟩ := o
    obtain ⟨h₁, h₂, h₃⟩ : Readable int64 partitions ∧ Readable int64 factor ∧
      Readable int64 retention := h
    simp [Observation.decode, Observation.encode, Topic.Observation.decode,
      Topic.Observation.encode, merge_object, -bind_pure_comp, -requiredField_eq_some, optionals,
      h₁, h₂, h₃]

/-! ## Conditions -/

/-- A condition is read from what it is written as. -/
theorem Condition.decode_encode (c : Condition) : Condition.decode c.encode = some c := by
  obtain ⟨aspect, verdict, reason, message, time⟩ := c
  cases message <;> cases time <;>
    simp [Condition.decode, Condition.encode, -bind_pure_comp, choice, optionalField,
      Reader.nullable]

/-! ## Statuses -/

/-- What is written onto a stored status leaves no field of it to be read with an unset one. -/
def Status.Uncovered {k : Kind} (s : Status k) (target : Json) : Prop :=
  match s.atProvider with
  | none => (target.get? "atProvider").getD .null = .null
  | some o => o.Uncovered ((target.get? "atProvider").getD .null)

/-- Nothing is in the way in a document that is null. -/
theorem Status.uncovered_null {k : Kind} (s : Status k) : s.Uncovered .null := by
  rw [Status.Uncovered]
  cases s.atProvider with
  | none => rfl
  | some o => exact fun _ _ _ => rfl

theorem Observation.encode_ne_null {k : Kind} (o : Observation k) :
    Observation.encode k o ≠ .null := by
  cases k <;> nofun

/-- A status is read back exactly where the unset fields of its observed state have no value. -/
theorem Status.decode_merge {k : Kind} {s : Status k}
    (h : ∀ o, s.atProvider = some o → Observation.InRange k o) (target : Json) :
    Status.decode k (target.merge s.encode) = some s ↔ s.Uncovered target := by
  obtain ⟨atProvider, conditions⟩ := s
  have hc : ∀ old, defaultedField [] (Json.list Condition.decode)
      (mergeField old (some (.array (conditions.map Condition.encode)))) = some conditions := by
    intro old
    have hn : array (conditions.map Condition.encode) ≠ .null := nofun
    rw [mergeField_some hn]
    exact Json.list_encoded Condition.decode_encode conditions
  rw [Uncovered, get?_eq_mergeable]
  cases atProvider with
  | none =>
    simp [Status.decode, Status.encode, merge_object, -bind_pure_comp, hc, getD_eq_null]
  | some o =>
    simp only
    rw [← Observation.decode_merge (h o rfl)]
    have hn := Observation.encode_ne_null o
    simp [Status.decode, Status.encode, merge_object, -bind_pure_comp, hc, mergeField_some hn,
      merge_ne_null _ hn]

/-- The stored object has a status that is read as this one. -/
def Status.ReadFrom {k : Kind} (s : Status k) (stored : Json) : Prop :=
  ∃ v, stored.get? "status" = some v ∧ Status.decode k v = some s

/-- A status is read back from a stored object exactly where the stored status leaves its unset
fields without a value. -/
theorem Status.readFrom_merge {k : Kind} {s : Status k}
    (h : ∀ o, s.atProvider = some o → Observation.InRange k o) (stored : Json) :
    s.ReadFrom (stored.merge (.object [("status", s.encode)])) ↔
      s.Uncovered (Reader.slot "status" stored.mergeable) := by
  have hn : s.encode ≠ .null := nofun
  rw [← Status.decode_merge h, ReadFrom, merge_object, get?_eq_mergeable, mergeable,
    get?_mergeMembers_single, if_pos rfl, mergeField_some hn]
  simp

/-- The numbers in the status of a resource are in range. -/
def Managed.InRange {k : Kind} (r : Managed k) : Prop :=
  ∀ s o, r.status = some s → s.atProvider = some o → Observation.InRange k o

open Reader in
/-- So they are in a resource that was read. -/
theorem Managed.inRange_of_decode {k : Kind} {stored : Json} {r : Managed k}
    (hc : stored.Canonical) (hr : Managed.decode k stored = some r) : r.InRange := by
  intro s o hs ho
  obtain ⟨-, -, hstatus⟩ := Managed.fits_of_decode hc hr
  rw [hs] at hstatus
  have hread := fits_of_read
    (fun s : Status k => OptionalFits (Observation.decode k) .null s.atProvider)
    hstatus.readable.fits_null <|
    fits_bind fits_optional fun _ h => fits_bind (fits_defaulted ⟨.array [], trivial, rfl⟩)
      fun _ _ => fits_pure h
  rw [ho] at hread
  exact Observation.inRange_of_readable hread.readable

end ResourceOperator
