import ResourceOperator.Proofs.Desired
import ResourceOperator.Proofs.Managed
import ResourceOperator.Proofs.Resolution

/-!
# Resolved references stored

A resource whose references were resolved is stored by merging its annotations and its spec into the
object that it was read from. `Persisted` says that nothing is lost by that, and `Storable` is the
exact condition for it.

What can be lost is the network of a subnet: it is an object with one member, which names its form,
and a resolved network is written by id. A network that was stored in another form keeps its member,
and what is stored then names two forms and cannot be read.

Results:
* `took_of_run`: what a resolution of references makes of a desired state.
* `parameters_read_back`: when that is read back.
* `resolution_persisted_iff_storable`: storing a resolution is faithful exactly where it is
  storable.
* `resolved_subnet_lost`: a network that was named in another form cannot be read any more.
-/

namespace ResourceOperator

open Json Json.Reader Dialogue

variable {k : Kind}

/-! ## What a resolution changes -/

/-- A resolution keeps the reference that it was given. -/
theorem Resolution.reference_of_run {request : Request k} {log : List (Exchange (Lookup k))}
    {found : Resolution} (run : Run (resolve request) log (.ok found)) :
    found.reference = request.reference ∨ request.reference = none := by
  unfold resolve at run
  split at run
  · cases run
    exact .inl rfl
  · split at run
    · next reference href =>
      cases run with
      | ask _ answer rest =>
        cases answer with
        | error e => cases rest
        | ok target =>
          cases rest
          exact .inl href.symm
    · next hnone => exact .inr hnone

/-- What a resolution of references may make of a desired state: the field that is resolved is kept
or has a new value, and its reference is kept or taken where there was none. -/
def Parameters.Took : (k : Kind) → Parameters k → Parameters k → Prop
  | .subnet, p, q => ∃ vpc ref, q = Subnet.Parameters.taken p vpc ref ∧
    (vpc = p.common.vpc ∨ vpc.isSome) ∧ (ref = p.common.vpcRef ∨ p.common.vpcRef = none)
  | .resourceKey, p, q => ∃ source ref, q = ResourceKey.Parameters.taken p source ref ∧
    (source = p.source ∨ source.isSome) ∧ (ref = p.sourceRef ∨ p.sourceRef = none)
  | .topic, p, q => ∃ url ref, q = Topic.Parameters.taken p url ref ∧
    (url = p.kafkaAdminUrl ∨ url.isSome) ∧ (ref = p.kafkaAdminUrlRef ∨ p.kafkaAdminUrlRef = none)
  | _, p, q => q = p

/-- A run that takes over a resolution leaves the resource as it was, or with what was found. -/
theorem Resolution.run_takeOver {j : Kind} {request : Request j} {field : String}
    {take : Resolution → Filled (Parameters k)} {r left : Managed k} {log : List (Exchange Outside)}
    {resolved : Resolved} (run : Run (takeOver request field take r) log ⟨.ok resolved, left⟩) :
    left = r ∨ ∃ found : Resolution, left = r.setParameters (take found).value ∧
      (found.reference = request.reference ∨ request.reference = none) := by
  obtain ⟨_, _, result, lookup, rest, -⟩ := Run.bind.mp run
  obtain ⟨_, lookup⟩ := lookup.of_forward
  cases result with
  | error e => cases rest
  | ok found =>
    change Run (if found.isPending then _ else _ : Dialogue Outside _) _ _ at rest
    split at rest <;> cases rest
    · exact .inl rfl
    · exact .inr ⟨found, rfl, reference_of_run lookup⟩

theorem kept_or_given {α : Type} {condition : Prop} [Decidable condition] {old : Option α} {a : α} :
    (if condition then some a else old) = old ∨ (if condition then some a else old).isSome := by
  split
  · exact .inr rfl
  · exact .inl rfl

/-- A resolution of references that succeeds leaves the resource with a desired state that it took
over. -/
theorem took_of_run {r left : Managed k} {log : List (Exchange Outside)} {resolved : Resolved}
    (run : Run ((External.ofKind k).resolveReferences r) log ⟨.ok resolved, left⟩) :
    ∃ q, left = r.setParameters q ∧ Parameters.Took k r.spec.forProvider q := by
  cases k with
  | vpc => cases run; exact ⟨_, rfl, rfl⟩
  | resourceInstance => cases run; exact ⟨_, rfl, rfl⟩
  | subnet =>
    rw [Subnet.resolveReferences_eq] at run
    rcases Resolution.run_takeOver run with rfl | ⟨found, rfl, href⟩
    · exact ⟨_, rfl, _, _, rfl, .inl rfl, .inl rfl⟩
    · exact ⟨_, rfl, _, _, rfl, kept_or_given, href⟩
  | resourceKey =>
    rw [ResourceKey.resolveReferences_eq] at run
    rcases Resolution.run_takeOver run with rfl | ⟨found, rfl, href⟩
    · exact ⟨_, rfl, _, _, rfl, .inl rfl, .inl rfl⟩
    · exact ⟨_, rfl, _, _, rfl, kept_or_given, href⟩
  | topic =>
    rw [Topic.resolveReferences_eq] at run
    rcases Resolution.run_takeOver run with rfl | ⟨found, rfl, href⟩
    · exact ⟨_, rfl, _, _, rfl, .inl rfl, .inl rfl⟩
    · exact ⟨_, rfl, _, _, rfl, kept_or_given, href⟩

/-! ## What is read back -/

/-- The network that a resource declares, which subnets alone have. -/
def Managed.network : {k : Kind} → Managed k → Option Identity
  | .subnet, r => Subnet.Common.vpc (Subnet.Parameters.common r.spec.forProvider)
  | _, _ => none

/-- The network of a resource keeps its form. -/
def KeepsForm (r left : Managed k) : Prop :=
  ∀ i j, r.network = some i → left.network = some j → i.form = j.form

/-- Storing `left` over the object that `r` was read from loses nothing: what is read then has the
spec and the annotations of `left`, and the other metadata and the status of `r`. -/
def Persisted (stored : Json) (r left : Managed k) : Prop :=
  ∃ m, Managed.decode k (stored.merge left.desiredStatePatch) = some m ∧ m.spec = left.spec ∧
    m.metadata.annotationTable = left.metadata.annotationTable ∧
    { m.metadata with annotations := r.metadata.annotations } = r.metadata ∧ m.status = r.status

/-- When `left` may be stored over the object that `r` was read from: the network keeps its form, or
the stored spec has no members that could survive. An object that is stored as an array is replaced
as a whole, so there must be nothing that the patch leaves out. -/
def Storable (stored : Json) (r left : Managed k) : Prop :=
  match stored with
  | .object members =>
    (∃ items, Table.get? "spec" members = some (.array items)) ∨ KeepsForm r left
  | _ => r.status = none ∧ { r.metadata with annotations := none } = Metadata.empty

/-- The place of the desired state in a stored object. -/
abbrev parametersSlot (stored : Json) : Json :=
  slot "forProvider" (slot "spec" stored.mergeable).mergeable

/-- A spec is read back where its desired state is. -/
theorem spec_read_back {stored : Json} {r : Managed k} (hc : stored.Canonical)
    (hr : Managed.decode k stored = some r) (q : Parameters k) :
    Spec.decode k ((slot "spec" stored.mergeable).merge (r.setParameters q).spec.encode) =
        some (r.setParameters q).spec ↔
      Parameters.decode k ((parametersSlot stored).merge (Parameters.encode k q)) = some q :=
  Spec.decode_merge (Spec.fits_of_decode (Managed.fits_of_decode hc hr).2.1) q q

/-- Over an object, everything is read back where the desired state is. -/
theorem persisted_object {members : List (String × Json)} {r : Managed k}
    (hc : Canonical (.object members)) (hr : Managed.decode k (.object members) = some r)
    (q : Parameters k) :
    Persisted (.object members) r (r.setParameters q) ↔
      Parameters.decode k ((parametersSlot (.object members)).merge (Parameters.encode k q)) =
        some q := by
  rw [← spec_read_back hc hr]
  obtain ⟨hm, -, hs⟩ := Managed.decode_object.mp hr
  obtain ⟨v, hv, hd⟩ := requiredField_eq_some.mp hm
  have hmeta := Metadata.decode_merge_annotations hd
    (persistent_texts.kept (Metadata.fits_annotations (hc.member hv) hd))
  constructor
  · rintro ⟨m, h, hspec, -⟩
    obtain ⟨-, hback, -⟩ := Managed.decode_merge.mp h
    rwa [hspec] at hback
  · intro h
    refine ⟨⟨{ r.metadata with annotations := some r.metadata.annotationTable },
      (r.setParameters q).spec, r.status⟩, Managed.decode_merge.mpr ⟨?_, h, hs⟩, rfl, rfl, rfl, rfl⟩
    rw [slot, mergeable, hv]
    exact hmeta

/-- Over an array, everything is read back where there is nothing but annotations and spec. -/
theorem persisted_array {items : List Json} {r : Managed k} (hc : Canonical (.array items))
    (hr : Managed.decode k (.array items) = some r) {q : Parameters k}
    (hq : Parameters.decode k ((parametersSlot (.array items)).merge (Parameters.encode k q)) =
      some q) :
    Persisted (.array items) r (r.setParameters q) ↔
      r.status = none ∧ { r.metadata with annotations := none } = Metadata.empty := by
  have hspec := (spec_read_back hc hr q).mpr hq
  have hmeta : Metadata.decode (Json.null.merge
      (.object [("annotations", ofTexts r.metadata.annotationTable)])) =
        some { Metadata.empty with annotations := some r.metadata.annotationTable } := by
    obtain ⟨metadata, spec, status, rfl, hd, -⟩ := Managed.decode_array.mp hr
    have hm : metadata.Canonical := canonical_array.mp hc metadata List.mem_cons_self
    exact Metadata.decode_merge_missing (Metadata.fits_annotations hm hd).readable
  constructor
  · rintro ⟨m, h, -, -, hrest, hstatus⟩
    obtain ⟨hm, -, hs⟩ := Managed.decode_merge.mp h
    have hm : m.metadata = _ := Option.some.inj (hm.symm.trans hmeta)
    have hs : m.status = none := (Option.some.inj hs).symm
    rw [hm] at hrest
    rw [← hstatus, hs, ← hrest]
    exact ⟨rfl, rfl⟩
  · rintro ⟨hstatus, hrest⟩
    refine ⟨⟨{ Metadata.empty with annotations := some r.metadata.annotationTable },
      (r.setParameters q).spec, none⟩, Managed.decode_merge.mpr ⟨hmeta, hspec, rfl⟩, rfl, rfl, ?_,
      hstatus.symm⟩
    rw [← hrest]

/-- Keys and topics are read back wherever they fit. -/
theorem key_read_back {v : Json} {p q : ResourceKey.Parameters}
    (h : Fits ResourceKey.Parameters.decode v p) (ht : Parameters.Took .resourceKey p q) :
    ResourceKey.Parameters.decode (v.merge q.encode) = some q := by
  obtain ⟨source, ref, rfl, hs, hr⟩ := ht
  exact ((ResourceKey.Parameters.fits_of_decode h).taken hs hr).read_back

theorem topic_read_back {v : Json} {p q : Topic.Parameters}
    (h : Fits Topic.Parameters.decode v p) (ht : Parameters.Took .topic p q) :
    Topic.Parameters.decode (v.merge q.encode) = some q := by
  obtain ⟨url, ref, rfl, hu, hr⟩ := ht
  exact ((Topic.Parameters.fits_of_decode h).taken hu hr).read_back

/-- A subnet is read back where its network keeps its form. -/
theorem subnet_read_back {v : Json} {p q : Subnet.Parameters}
    (hc : v.Canonical) (hd : Subnet.Parameters.decode v = some p)
    (ht : Parameters.Took .subnet p q) :
    Subnet.Parameters.decode (v.merge q.encode) = some q ↔
      ∀ i j, p.common.vpc = some i → q.common.vpc = some j → i.form = j.form := by
  obtain ⟨vpc, ref, rfl, hv, hr⟩ := ht
  have hfits := Subnet.Parameters.fits_of_decode (.inl ⟨hc, hd⟩)
  rw [Subnet.Parameters.decode_merge_taken hfits vpc hr]
  exact Identity.optional_of_read (Subnet.Parameters.vpc_of_decode hd) hv

/-- Written where nothing is, a subnet is read back. -/
theorem subnet_read_back_missing {p q : Subnet.Parameters}
    (h : Fits Subnet.Parameters.decode .null p) (ht : Parameters.Took .subnet p q) :
    Subnet.Parameters.decode (Json.null.merge q.encode) = some q := by
  obtain ⟨vpc, ref, rfl, -, hr⟩ := ht
  rw [Subnet.Parameters.decode_merge_taken (Subnet.Parameters.fits_of_decode h) vpc hr]
  exact Identity.optional_of_missing vpc

/-- Where the desired state fits a place that has nothing to keep, it is read back. -/
theorem parameters_read_back_missing (hk : k.referenced.isSome) {p q : Parameters k}
    (h : Fits (Parameters.decode k) .null p) (ht : Parameters.Took k p q) :
    Parameters.decode k (Json.null.merge (Parameters.encode k q)) = some q := by
  cases k with
  | subnet => exact subnet_read_back_missing h ht
  | resourceKey => exact key_read_back h ht
  | topic => exact topic_read_back h ht
  | vpc => cases hk
  | resourceInstance => cases hk

/-- Where the desired state was read, it is read back if its network keeps its form. -/
theorem parameters_read_back (hk : k.referenced.isSome) {v : Json} (hc : v.Canonical)
    {r : Managed k} (hd : Parameters.decode k v = some r.spec.forProvider) {q : Parameters k}
    (ht : Parameters.Took k r.spec.forProvider q) :
    Parameters.decode k (v.merge (Parameters.encode k q)) = some q ↔
      KeepsForm r (r.setParameters q) := by
  cases k with
  | subnet => exact subnet_read_back hc hd ht
  | resourceKey => exact iff_of_true (key_read_back (.inl ⟨hc, hd⟩) ht) nofun
  | topic => exact iff_of_true (topic_read_back (.inl ⟨hc, hd⟩) ht) nofun
  | vpc => cases hk
  | resourceInstance => cases hk

/-- The desired state is read back over a stored object when the stored spec has no members, or when
the network keeps its form. -/
theorem parameters_read_back_object (hk : k.referenced.isSome) {members : List (String × Json)}
    (hc : Canonical (.object members)) {r : Managed k}
    (hr : Managed.decode k (.object members) = some r) {q : Parameters k}
    (ht : Parameters.Took k r.spec.forProvider q) :
    Parameters.decode k ((parametersSlot (.object members)).merge (Parameters.encode k q)) =
        some q ↔
      (∃ items, Table.get? "spec" members = some (.array items)) ∨
        KeepsForm r (r.setParameters q) := by
  have hfits := (Spec.fits_of_decode (Managed.fits_of_decode hc hr).2.1).forProvider
  obtain ⟨-, hs, -⟩ := Managed.decode_object.mp hr
  obtain ⟨spec, hspec, hd⟩ := requiredField_eq_some.mp hs
  have hslot : slot "spec" (mergeable (.object members)) = spec := by
    rw [mergeable, slot, hspec]
    rfl
  rw [hslot] at hfits
  rw [parametersSlot, hslot]
  cases spec with
  | array items =>
    exact iff_of_true (parameters_read_back_missing hk hfits ht) (.inl ⟨items, hspec⟩)
  | object specMembers =>
    obtain ⟨v, hv, hp⟩ := Spec.forProvider_of_decode hd
    rw [mergeable, slot, hv, Option.getD_some,
      parameters_read_back hk ((hc.member hspec).member hv) hp ht]
    refine ⟨.inr, fun h => h.resolve_left ?_⟩
    rintro ⟨items, e⟩
    cases hspec.symm.trans e
  | _ => cases hd

/-- **Resolved references are stored faithfully exactly where they are storable.** For every object
of a kind with references, as the cluster stores it, and every answer about other objects: merging
the annotations and the spec that a resolution leaves into the stored object gives an object that is
read with them, and with all else unchanged, if and only if the result is `Storable`. -/
theorem resolution_persisted_iff_storable (hk : k.referenced.isSome) {stored : Json}
    (hc : stored.Canonical) {r left : Managed k} (hr : Managed.decode k stored = some r)
    {log : List (Exchange Outside)} {resolved : Resolved}
    (run : Run ((External.ofKind k).resolveReferences r) log ⟨.ok resolved, left⟩) :
    Persisted stored r left ↔ Storable stored r left := by
  obtain ⟨q, rfl, ht⟩ := took_of_run run
  cases stored with
  | object members =>
    rw [persisted_object hc hr, parameters_read_back_object hk hc hr ht]
    rfl
  | array items =>
    have hfits := (Spec.fits_of_decode (Managed.fits_of_decode hc hr).2.1).forProvider
    exact persisted_array hc hr (parameters_read_back_missing hk hfits ht)
  | _ => cases hr

/-- A subnet that names its network by resource name, and selects it too. -/
def selectingSubnet : Managed .subnet where
  metadata := { Metadata.empty with name := some "sn" }
  spec :=
    { forProvider :=
        ⟨⟨none, none, none, none, none, none, some ⟨.crn, "crn:v1:vpc:r006-old"⟩, none,
          some ⟨[("env", "prod")]⟩⟩, .byTotalCount 256 "us-south-1"⟩
      deletionPolicy := .delete
      connectionSecret := none
      connectionTemplates := () }
  status := none

/-- The subnet as the cluster stores it. -/
def storedSubnet : Json :=
  .object
    [("metadata", .object [("name", .string "sn")]),
      ("spec", .object [("forProvider", .object [("byTotalCount", .object
        [("totalIpv4AddressCount", .ofInt 256),
          ("vpc", .object [("crn", .string "crn:v1:vpc:r006-old")]),
          ("vpcSelector", .object [("matchLabels", .object [("env", .string "prod")])]),
          ("zone", .string "us-south-1")])])])]

/-- The network that the selector picks. -/
def selectedNetwork : Managed .vpc where
  metadata :=
    { Metadata.empty with
      annotations := some [(Metadata.externalNameKey, "r006-new")]
      labels := some [("env", "prod")]
      name := some "net" }
  spec := ⟨⟨none, none, none, none⟩, .delete, none, ()⟩
  status := none

/-- The subnet with the network that was selected. -/
def resolvedSubnet : Managed .subnet :=
  selectingSubnet.setParameters
    (.taken selectingSubnet.spec.forProvider (some (.byId "r006-new")) (some ⟨"net"⟩))

theorem canonical_storedSubnet : storedSubnet.Canonical := by decide

/-- A network that was stored by resource name and is resolved by id is not read back. -/
theorem resolved_subnet_lost : ¬ Persisted storedSubnet selectingSubnet resolvedSubnet := by
  have run : Run ((External.ofKind .subnet).resolveReferences selectingSubnet)
      [⟨.lookup .vpc .list, .ok [selectedNetwork]⟩] ⟨.ok ⟨true, []⟩, resolvedSubnet⟩ :=
    .ask _ _ (.done _)
  intro persisted
  have storable : Storable storedSubnet selectingSubnet resolvedSubnet :=
    (resolution_persisted_iff_storable rfl canonical_storedSubnet rfl run).mp persisted
  rcases storable with ⟨_, h⟩ | h
  · cases h
  · cases h _ _ rfl rfl

end ResourceOperator
