import ResourceOperator.Proofs.Emptied
import ResourceOperator.Proofs.Resolution.Specification

/-!
# Identities that count as none

An identity that names nothing counts as none. Three operations on a declared subnet decide for
themselves which identities these are. The request that creates the subnet leaves out an identity
without a value. A comparison with the subnet, and the update that comes of it, take an identity
without a canonical id for none, and so does the resolution of the network.

The two tests come apart for a URL of nothing but slashes (`OnlySlashes`): it has a value, but no
segment of it is left that could be an id. Such a URL is sent when the subnet is created. From then
on it counts as none: what the subnet has in its place is detached, and a network that is given by it
is waited for. For every other identity the three operations agree.

An operation takes an identity for none where it comes to the same for every declaration, whether
that has the identity or none in its place. That is what `Omitted`, `Overlooked` and `Unplaced` say
of the three.

Results:
* `omitted_iff`, `overlooked_iff`, `unplaced_iff`: what each operation takes for none.
* `nameless_iff`: which identities have no canonical id.
* `counts_as_none_iff`: these together, and for which identities the operations agree.
-/

namespace ResourceOperator.Subnet

open Cloud

/-! ## Places -/

/-- A place of a declaration that can hold an identity. -/
inductive Place where
  | networkAcl
  | publicGateway
  | resourceGroup
  | routingTable
  | vpc
  deriving DecidableEq, Repr

/-- The field that is compared and updated at a place. The other places are fixed at creation. -/
def Place.field? : Place → Option Field
  | .networkAcl => some .networkAcl
  | .publicGateway => some .publicGateway
  | .routingTable => some .routingTable
  | .resourceGroup | .vpc => none

/-- The common part of a declaration with an identity, or none, at a place. -/
def Common.put (c : Common) (i : Option Identity) : Place → Common
  | .networkAcl => { c with networkAcl := i }
  | .publicGateway => { c with publicGateway := i }
  | .resourceGroup => { c with resourceGroup := i }
  | .routingTable => { c with routingTable := i }
  | .vpc => { c with vpc := i }

/-- A declaration with an identity, or none, at a place. -/
def Parameters.put (p : Parameters) (place : Place) (i : Option Identity) : Parameters :=
  { p with common := p.common.put i place }

/-- What a request says at a place. -/
def RequestCommon.nameAt (r : RequestCommon) : Place → Option ObjectName
  | .networkAcl => r.networkAcl
  | .publicGateway => r.publicGateway
  | .resourceGroup => r.resourceGroup
  | .routingTable => r.routingTable
  | .vpc => some r.vpc

variable {place : Place} {f : Field} {i : Identity}

theorem identity_put (hf : place.field? = some f) (p : Parameters) (j : Option Identity) :
    (p.put place j).identity f = j := by
  cases place <;> cases hf <;> rfl

theorem ne_name_of_field? (hf : place.field? = some f) : f ≠ .name := by
  cases place <;> cases hf <;> decide

/-! ## Creation -/

/-- No request for a subnet tells the identity at this place from none: the requests are the same,
or the errors with which they are refused. -/
def Omitted (place : Place) (i : Identity) : Prop :=
  ∀ (p : Parameters) (readBlock : String → Except Net.Block.Error Net.Block),
    (p.put place (some i)).requestWith readBlock = (p.put place none).requestWith readBlock

theorem requestName_eq_none_iff : requestName (some i) = none ↔ i.value = "" := by
  constructor
  · intro h
    by_contra hne
    rw [requestName_of_given rfl hne] at h
    cases h
  · intro hempty
    refine requestName_of_not_given ?_
    rintro ⟨_, ⟨⟩, hne⟩
    exact hne hempty

/-- An empty identity in place of none. -/
theorem emptied_put (h : i.value = "") (p : Parameters) (place : Place) :
    (p.put place none).Emptied (p.put place (some i)) := by
  have hsizing : p.sizing.Emptied p.sizing := by
    cases p.sizing with
    | byTotalCount count zone => exact .byTotalCount count zone
    | byCidr block zone => exact .byCidr block (.kept zone)
  refine ⟨?_, hsizing⟩
  cases place <;> constructor <;> first | exact .written h | exact .kept _ | rfl

/-- A declared subnet with a network and a block, and nothing else. -/
def plainSubnet : Parameters :=
  ⟨⟨none, none, none, none, none, none, some (.byId "v-1"), none, none⟩, .byCidr "" none⟩

/-- The request for a plain subnet says what is put at a place, unless that is the network. -/
theorem requested_put (hplace : place ≠ .vpc) (j : Option Identity) :
    ∃ r, (plainSubnet.put place j).requestWith (fun _ => .ok ⟨0, 32⟩) = .ok r ∧
      r.common.nameAt place = requestName j := by
  cases place with
  | vpc => exact absurd rfl hplace
  | _ => exact ⟨_, rfl, rfl⟩

/-- A request leaves out the identities without a value. -/
theorem omitted_iff : Omitted place i ↔ i.value = "" := by
  constructor
  · intro h
    have hsame := h plainSubnet fun _ => .ok ⟨0, 32⟩
    by_cases hplace : place = .vpc
    · -- a request without a network is refused
      subst hplace
      by_contra hne
      rw [Parameters.requestWith, show requestName (plainSubnet.put .vpc (some i)).common.vpc = _ from
        requestName_of_given rfl hne] at hsame
      cases hsame
    · obtain ⟨r, hr, hname⟩ := requested_put hplace (some i)
      obtain ⟨r', hr', hname'⟩ := requested_put hplace none
      rw [hr, hr'] at hsame
      cases hsame
      exact requestName_eq_none_iff.mp (hname.symm.trans hname')
  · intro hempty p readBlock
    exact (emptied_put hempty p place).requestWith_eq readBlock

/-! ## Comparison -/

/-- No comparison with a subnet, and no update of it, tells the identity at this place from none. -/
def Overlooked (place : Place) (i : Identity) : Prop :=
  ∀ (p : Parameters) (s : Remote),
    (p.put place (some i)).changedFields s = (p.put place none).changedFields s ∧
    (p.put place (some i)).isUpToDate s = (p.put place none).isUpToDate s ∧
    (p.put place (some i)).patch s = (p.put place none).patch s

/-- Identities with the same canonical id are the same as any other, or not. -/
theorem same_of_canonicalId? {i j : Option Identity}
    (h : Identity.canonicalId? i = Identity.canonicalId? j) (other : Option Identity) :
    Identity.same i other = Identity.same j other := by
  unfold Identity.same
  rw [h]

theorem changedFields_put (h : Identity.canonicalId? (some i) = none) (p : Parameters)
    (place : Place) (s : Remote) :
    (p.put place (some i)).changedFields s = (p.put place none).changedFields s := by
  have hsame : ∀ other, Identity.same (some i) other = Identity.same none other :=
    same_of_canonicalId? h
  cases place with
  | resourceGroup | vpc => rfl
  | networkAcl | publicGateway | routingTable =>
    unfold Parameters.changedFields
    dsimp only [Parameters.put, Common.put]
    rw [hsame]
    rfl

theorem patchField_put (h : Identity.canonicalId? (some i) = none) (p : Parameters) (place : Place)
    (f : Field) : (p.put place (some i)).patchField f = (p.put place none).patchField f := by
  have hsent : patchIdentity (some i) = patchIdentity none := by
    unfold patchIdentity
    rw [h]
    rfl
  cases place <;> cases f <;> first | rfl | exact congrArg some hsent

/-- A subnet without any reference. -/
def bareSubnet : Remote :=
  ⟨"s-1", "", "", "", "", "", 0, 0, .unknown, none, none, none, none, none, .empty, .empty⟩

/-- A comparison takes the identities without a canonical id for none. -/
theorem overlooked_iff (hplace : place.field? ≠ none) :
    Overlooked place i ↔ Identity.canonicalId? (some i) = none := by
  constructor
  · intro h
    obtain ⟨f, hf⟩ := Option.ne_none_iff_exists'.mp hplace
    have hname := ne_name_of_field? hf
    have hempty : bareSubnet.reference f = none := by cases f <;> rfl
    -- a field for which the subnet has no reference agrees with none
    have hnone : f.Agrees (plainSubnet.put place none) bareSubnet := by
      rw [agrees_iff_names hname, identity_put hf, hempty]
      rfl
    have hagrees : f.Agrees (plainSubnet.put place (some i)) bareSubnet := by
      by_contra hchanged
      rw [← mem_changedFields, (h plainSubnet bareSubnet).1, mem_changedFields] at hchanged
      exact hchanged hnone
    rw [agrees_iff_names hname, identity_put hf, hempty] at hagrees
    exact hagrees
  · intro h p s
    have hchanged := changedFields_put h p place s
    refine ⟨hchanged, congrArg List.isEmpty hchanged, ?_⟩
    unfold Parameters.patch
    rw [hchanged]
    refine congrArg Table.ofList (List.flatMap_congr fun f _ => ?_)
    rw [patchField_put h]

/-! ## Resolution -/

/-- No resolution of the network of a subnet tells the identity from none. -/
def Unplaced (i : Identity) : Prop :=
  ∀ p : Parameters, Resolution.resolve (resolutionRequest (p.put .vpc (some i))) =
    Resolution.resolve (resolutionRequest (p.put .vpc none))

/-- The value that a network has now is the canonical id of its identity. -/
theorem currentVpc_put (p : Parameters) : currentVpc (p.put .vpc (some i)) = i.canonicalId := rfl

/-- A network that is given by an identity with a canonical id, and in no other way, is taken
over. -/
theorem resolve_plain (h : i.canonicalId ≠ "") :
    Resolution.resolve (resolutionRequest (plainSubnet.put .vpc (some i))) =
      pure (.ok ⟨i.canonicalId, none⟩) :=
  Resolution.resolve_of_kept (Resolution.isKept_iff.mpr ⟨h, rfl⟩)

/-- Resolution takes the identities without a canonical id for none. -/
theorem unplaced_iff : Unplaced i ↔ Identity.canonicalId? (some i) = none := by
  constructor
  · intro h
    rw [Identity.canonicalId?_eq_none_iff]
    by_contra hne
    have hsame := h plainSubnet
    rw [resolve_plain hne] at hsame
    -- with none in its place, the network is not known
    have hnone : (Except.ok ⟨i.canonicalId, none⟩ : Except EngineError Resolution) =
        .ok ⟨"", none⟩ := Dialogue.done.inj hsame
    injection hnone with hresolution
    exact hne (congrArg Resolution.value hresolution)
  · intro h p
    refine congrArg Resolution.resolve ?_
    unfold resolutionRequest
    rw [currentVpc_put, Identity.canonicalId?_eq_none_iff.mp h]
    rfl

/-! ## All three -/

/-- A URL that has something in it, but nothing besides slashes. -/
def OnlySlashes (i : Identity) : Prop :=
  i.form = .href ∧ i.value ≠ "" ∧ ∀ c ∈ i.value.toList, c = '/'

/-- An identity has no canonical id where it is empty, or a URL of nothing but slashes. -/
theorem nameless_iff :
    Identity.canonicalId? (some i) = none ↔ i.value = "" ∨ OnlySlashes i := by
  rw [Identity.canonicalId?_eq_none_iff, Identity.canonicalId_eq_empty_iff, Identity.isEmpty,
    String.isEmpty_iff, OnlySlashes]
  tauto

/-- **Which identities count as none.** A request for a subnet takes exactly the identities without
a value for none, at each place. Comparisons and updates take exactly those without a canonical id
for none, at each place that they look at, and the resolution of the network does the same. These
are the identities without a value and the URLs of nothing but slashes. So the three agree on an
identity exactly if it is no such URL. -/
theorem counts_as_none_iff (i : Identity) :
    (∀ place, Omitted place i ↔ i.value = "") ∧
    (∀ place, place.field? ≠ none →
      (Overlooked place i ↔ Identity.canonicalId? (some i) = none)) ∧
    (Unplaced i ↔ Identity.canonicalId? (some i) = none) ∧
    (Identity.canonicalId? (some i) = none ↔ i.value = "" ∨ OnlySlashes i) ∧
    (((∀ place, place.field? ≠ none → (Omitted place i ↔ Overlooked place i)) ∧
      (Omitted .vpc i ↔ Unplaced i)) ↔ ¬ OnlySlashes i) := by
  have hagree : (i.value = "" ↔ Identity.canonicalId? (some i) = none) ↔ ¬ OnlySlashes i := by
    rw [nameless_iff]
    constructor
    · intro h hslashes
      exact hslashes.2.1 (h.mpr (.inr hslashes))
    · intro h
      exact ⟨.inl, fun hnone => hnone.resolve_right h⟩
  refine ⟨fun _ => omitted_iff, fun _ => overlooked_iff, unplaced_iff, nameless_iff, ?_⟩
  rw [omitted_iff, unplaced_iff, ← hagree]
  refine ⟨And.right, fun h => ⟨fun place hplace => ?_, h⟩⟩
  rw [omitted_iff, overlooked_iff hplace, h]

/-- A URL of one slash is sent with a request, as the network ACL and as the network. A comparison
takes it for none all the same, and so does the resolution of the network. -/
theorem slash_told_apart :
    ¬ Omitted .networkAcl ⟨.href, "/"⟩ ∧ ¬ Omitted .vpc ⟨.href, "/"⟩ ∧
    Overlooked .networkAcl ⟨.href, "/"⟩ ∧ Unplaced ⟨.href, "/"⟩ ∧
    ¬ ((∀ place, place.field? ≠ none →
        (Omitted place ⟨.href, "/"⟩ ↔ Overlooked place ⟨.href, "/"⟩)) ∧
      (Omitted .vpc ⟨.href, "/"⟩ ↔ Unplaced ⟨.href, "/"⟩)) := by
  have hslashes : OnlySlashes ⟨.href, "/"⟩ := ⟨rfl, by decide, List.forall_mem_singleton.mpr rfl⟩
  obtain ⟨homitted, hoverlooked, hunplaced, hnameless, hagree⟩ := counts_as_none_iff ⟨.href, "/"⟩
  have hnone := hnameless.mpr (.inr hslashes)
  refine ⟨?_, ?_, (hoverlooked .networkAcl (by decide)).mpr hnone, hunplaced.mpr hnone, ?_⟩
  · exact fun h => hslashes.2.1 ((homitted _).mp h)
  · exact fun h => hslashes.2.1 ((homitted _).mp h)
  · exact fun h => hagree.mp h hslashes

end ResourceOperator.Subnet
