import ResourceOperator.Proofs.Identity
import ResourceOperator.Proofs.Subnet.Convergence
import ResourceOperator.Proofs.Unset

/-!
# What a declaration leaves open

A declaration leaves a field open where it is absent or empty. Late initialization adopts what the
subnet has there, and what was adopted agrees with the subnet, so that an update has nothing to say
about it: an absent identity is filled in by id, and one that names a representation without a value
is filled in with that representation, which stands for the same id.

There is one exception. A reference need not have every representation. Where the declaration names
one that the reference lacks, nothing can be adopted in that representation, and the identity stays
empty. An empty identity counts as none when it is compared, and the update of a field with none
detaches the object.

Results:
* `names_filled_iff`: when an identity that was left open names the object after it is filled in.
* `open_field_updated_iff`: which fields that were left open an update speaks of, and what it says.
* `crnless_networkAcl_detached`: a network ACL that is detached since it has no resource name.
-/

namespace ResourceOperator

open Cloud

/-- Each part of a reference that is there stands for the id of its object. -/
def Cloud.ObjectReference.Coherent (r : ObjectReference) : Prop :=
  ∀ form, r.part form ≠ "" → Identity.canonicalId ⟨form, r.part form⟩ = r.id

namespace Subnet

variable {p : Parameters} {s : Remote} {f : Field}

/-! ## Fields that are left open -/

/-- A declaration says nothing about a field: it has no name, or no identity with a value. -/
def Field.Open (p : Parameters) : Field → Prop
  | .name => p.common.name = none ∨ p.common.name = some ""
  | f => ∀ i, p.identity f = some i → i.value = ""

/-- An identity that waits for a representation that its object does not have. -/
def Stranded (i : Option Identity) (r : Option ObjectReference) : Prop :=
  ∃ given ref, i = some given ∧ r = some ref ∧ ref.id ≠ "" ∧ ref.part given.form = ""

theorem open_iff {f : Field} (hf : f ≠ .name) :
    f.Open p ↔ ∀ i, p.identity f = some i → i.value = "" := by
  cases f with
  | name => exact absurd rfl hf
  | _ => exact Iff.rfl

/-! ## Identities that are filled in -/

/-- An identity with the id of an object names it. -/
theorem names_of_canonicalId {i : Identity} {r : ObjectReference} (h : i.canonicalId = r.id) :
    Names (some i) (some r) := by
  unfold Names
  rw [Option.map_some, ← h]
  rfl

/-- What names nothing names the object of a reference only where that has no id. -/
theorem names_nothing_iff {i : Option Identity} {r : ObjectReference}
    (hi : Identity.canonicalId? i = none) : Names i (some r) ↔ r.id = "" := by
  unfold Names
  rw [hi, Option.map_some]
  by_cases hid : r.id = ""
  · rw [hid]
    exact iff_of_true rfl rfl
  · have hkept : (some r.id).filter (fun id => !id.isEmpty) = some r.id :=
      if_pos (by simpa using hid)
    rw [hkept]
    exact iff_of_false nofun hid

/-- An identity without a value names nothing. -/
theorem canonicalId?_open {i : Option Identity} (h : ∀ given, i = some given → given.value = "") :
    Identity.canonicalId? i = none := by
  cases i with
  | none => rfl
  | some given =>
    refine Identity.canonicalId?_none (Identity.canonicalId_eq_empty_iff.mpr (.inl ?_))
    exact String.isEmpty_iff.mpr (h given rfl)

/-- An identity that was left open names the object once it is filled in, unless it waits for a
representation that the object does not have. -/
theorem names_filled_iff {i : Option Identity} {r : Option ObjectReference}
    (hopen : ∀ given, i = some given → given.value = "")
    (hcoherent : ∀ ref, r = some ref → ref.Coherent) :
    Names (Filled.ofIdentity i r).value r ↔ ¬ Stranded i r := by
  have hnothing := canonicalId?_open hopen
  cases r with
  | none =>
    refine iff_of_true hnothing ?_
    rintro ⟨_, _, -, ⟨⟩, -⟩
  | some ref =>
    cases i with
    | none =>
      have hfree : ¬ Stranded none (some ref) := by
        rintro ⟨_, _, ⟨⟩, -⟩
      refine iff_of_true ?_ hfree
      rw [Filled.ofIdentity_none]
      by_cases hid : ref.id.isEmpty = true
      · rw [if_pos hid]
        exact (names_nothing_iff rfl).mpr (String.isEmpty_iff.mp hid)
      · rw [if_neg hid]
        exact names_of_canonicalId rfl
    | some given =>
      have hempty : given.isEmpty = true := String.isEmpty_iff.mpr (hopen given rfl)
      rw [Filled.ofIdentity_some]
      by_cases hpart : ref.part given.form = ""
      · -- nothing can be adopted, and the identity still names nothing
        rw [if_neg (by simp [hpart])]
        constructor
        · rintro hnames ⟨_, _, ⟨⟩, ⟨⟩, hid, -⟩
          exact hid ((names_nothing_iff hnothing).mp hnames)
        · intro hfree
          refine (names_nothing_iff hnothing).mpr ?_
          by_contra hid
          exact hfree ⟨given, ref, rfl, rfl, hid, hpart⟩
      · rw [if_pos (by simp [hempty, hpart])]
        refine iff_of_true (names_of_canonicalId (hcoherent ref rfl given.form hpart)) ?_
        rintro ⟨_, _, ⟨⟩, ⟨⟩, -, hnone⟩
        exact hpart hnone

/-! ## Updates after late initialization -/

/-- Each identity of a declaration is filled in from the reference of its field. -/
theorem identity_lateInitialize (f : Field) : (p.lateInitialize s).value.identity f =
    (Filled.ofIdentity (p.identity f) (s.reference f)).value := by
  cases f <;> rfl

/-- A name that was left open agrees once it is filled in. -/
theorem name_agrees_filled (hopen : Field.name.Open p) :
    Field.name.Agrees (p.lateInitialize s).value s := by
  intro name hname hne
  have hfilled := ((Common.onlyFills s).fields p.common).name.bind_nonEmpty_eq_or
  have hnone : p.common.name.bind nonEmpty = none := by
    rcases hopen with habsent | hempty
    · rw [habsent]
      rfl
    · rw [hempty]
      rfl
  rw [hnone, Option.none_or] at hfilled
  have hfound : nonEmpty s.name = some name := by
    rw [← hfilled]
    exact Option.bind_eq_some_iff.mpr ⟨name, hname, nonEmpty_eq_some_iff.mpr ⟨rfl, hne⟩⟩
  exact (nonEmpty_eq_some_iff.mp hfound).1

/-- A field that was left open agrees once it is filled in, unless its identity waits for a
representation that the object does not have. -/
theorem agrees_filled_iff (hcoherent : ∀ f r, s.reference f = some r → r.Coherent)
    (hopen : f.Open p) :
    f.Agrees (p.lateInitialize s).value s ↔ ¬ Stranded (p.identity f) (s.reference f) := by
  by_cases hname : f = .name
  · subst hname
    refine iff_of_true (name_agrees_filled hopen) ?_
    rintro ⟨_, _, ⟨⟩, -⟩
  · rw [agrees_iff_names hname, identity_lateInitialize]
    exact names_filled_iff ((open_iff hname).mp hopen) (hcoherent f)

/-- An identity that waits for a representation is sent as none. -/
theorem patchField_stranded (hopen : f.Open p) (h : Stranded (p.identity f) (s.reference f)) :
    (p.lateInitialize s).value.patchField f = some (.object []) := by
  obtain ⟨given, ref, hgiven, href, -, hpart⟩ := h
  have hname : f ≠ .name := by
    rintro rfl
    exact absurd hgiven nofun
  have hkept : (Filled.ofIdentity (some given) (some ref)).value = some given := by
    rw [Filled.ofIdentity_some, if_neg (by simp [hpart])]
    rfl
  have hnothing : Identity.canonicalId? (some given) = none := by
    rw [← hgiven]
    exact canonicalId?_open ((open_iff hname).mp hopen)
  rw [patchField_eq hname, identity_lateInitialize, hgiven, href, hkept, patchIdentity, hnothing]
  rfl

/-- **What a declaration leaves open is detached in one case only.** Where each part of a reference
stands for its id, an update after late initialization has nothing to say about a field that was
left open, unless the declaration has an empty identity there in a representation that the object
does not have. Such a field counts as changed, and the update detaches the object. -/
theorem open_field_updated_iff (hcoherent : ∀ f r, s.reference f = some r → r.Coherent)
    (hopen : f.Open p) :
    (f ∈ (p.lateInitialize s).value.changedFields s ↔
      Stranded (p.identity f) (s.reference f)) ∧
    (¬ Stranded (p.identity f) (s.reference f) →
      Table.get? f.wireName ((p.lateInitialize s).value.patch s) = none) ∧
    (Stranded (p.identity f) (s.reference f) →
      Table.get? f.wireName ((p.lateInitialize s).value.patch s) = some (.object [])) := by
  have hchanged : f ∈ (p.lateInitialize s).value.changedFields s ↔
      Stranded (p.identity f) (s.reference f) := by
    rw [mem_changedFields, agrees_filled_iff hcoherent hopen, Classical.not_not]
  refine ⟨hchanged, ?_, ?_⟩
  · intro hfree
    rw [get?_patch, if_neg fun hf => hfree (hchanged.mp hf)]
  · intro hstranded
    rw [get?_patch, if_pos (hchanged.mpr hstranded)]
    exact patchField_stranded hopen hstranded

/-- A declared subnet that leaves its network ACL open, in the representation by resource name. -/
def openSubnet : Parameters :=
  ⟨⟨some "apps", none, some ⟨.crn, ""⟩, none, none, none, none, none, none⟩,
    .byTotalCount 256 "us-south-1"⟩

/-- A subnet whose network ACL has an id and no resource name. -/
def crnlessSubnet : Remote :=
  ⟨"s-1", "", "", "apps", "ipv4", "10.0.0.0/24", 251, 256, .available, none,
    some ⟨"acl-1", "", "", "first"⟩, none, none, some ⟨"rt-1", "", "", ""⟩, ⟨"v-1", "", "", "net"⟩,
    ⟨"us-south-1", ""⟩⟩

/-- The network ACL is detached, and the routing table, which the declaration does not mention, is
not. -/
theorem crnless_networkAcl_detached :
    Field.networkAcl ∈ (openSubnet.lateInitialize crnlessSubnet).value.changedFields crnlessSubnet ∧
    Table.get? "network_acl" ((openSubnet.lateInitialize crnlessSubnet).value.patch crnlessSubnet) =
      some (.object []) ∧
    Table.get? "routing_table"
      ((openSubnet.lateInitialize crnlessSubnet).value.patch crnlessSubnet) = none := by
  have hcoherent : ∀ f r, crnlessSubnet.reference f = some r → r.Coherent := by
    intro f r hr form hpart
    cases f with
    | networkAcl | routingTable =>
      cases hr
      cases form with
      | id => rfl
      | crn | href => exact absurd rfl hpart
    | name | publicGateway => exact absurd hr nofun
  have hacl : Field.networkAcl.Open openSubnet := by
    intro i hi
    cases hi
    rfl
  have htable : Field.routingTable.Open openSubnet := by
    intro i hi
    exact absurd hi nofun
  have hstranded :
      Stranded (openSubnet.identity .networkAcl) (crnlessSubnet.reference .networkAcl) :=
    ⟨⟨.crn, ""⟩, ⟨"acl-1", "", "", "first"⟩, rfl, rfl, by decide, rfl⟩
  have hfree :
      ¬ Stranded (openSubnet.identity .routingTable) (crnlessSubnet.reference .routingTable) := by
    rintro ⟨_, _, hgiven, -⟩
    exact absurd hgiven nofun
  obtain ⟨hchanged, -, hdetached⟩ := open_field_updated_iff hcoherent hacl
  obtain ⟨-, hsilent, -⟩ := open_field_updated_iff hcoherent htable
  exact ⟨hchanged.mpr hstranded, hdetached hstranded, hsilent hfree⟩

end Subnet

end ResourceOperator
