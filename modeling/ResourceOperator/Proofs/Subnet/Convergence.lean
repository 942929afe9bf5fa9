import ResourceOperator.Proofs.Json.Update
import ResourceOperator.Subnet.Mapping

/-!
# Updates of a subnet converge

An update of a subnet names the fields that disagree, and an object that the subnet refers to by its
id: the canonical id of what is declared, in whatever representation it is declared. The id that is
read back is the one that was sent, so what the update names agrees once it is applied, and what it
does not name agreed before. Then there is nothing left to update.

Results:
* `mem_changedFields`: the fields that are updated are those that disagree.
* `get?_patch`: what an update says about a field.
* `update_converges`: a subnet to which its update is applied needs no other one.
* `detachedSubnet_converges`: this for a subnet whose gateway is detached, whose name changes, and
  whose network ACL is declared by a URL.
-/

namespace ResourceOperator.Subnet

open Cloud

variable {p : Parameters} {s s' : Remote}

/-! ## Fields that agree -/

/-- What a declaration says about an object that the subnet refers to. -/
def Parameters.identity (p : Parameters) : Field → Option Identity
  | .name => none
  | .networkAcl => p.common.networkAcl
  | .publicGateway => p.common.publicGateway
  | .routingTable => p.common.routingTable

/-- The reference of the subnet to that object. -/
def Remote.reference (s : Remote) : Field → Option ObjectReference
  | .name => none
  | .networkAcl => s.networkAcl
  | .publicGateway => s.publicGateway
  | .routingTable => s.routingTable

/-- An identity names the object of a reference by its id; no object has an empty id. -/
def Names (i : Option Identity) (r : Option ObjectReference) : Prop :=
  Identity.canonicalId? i = (r.map ObjectReference.id).filter fun id => !id.isEmpty

/-- A declaration agrees with a subnet in a field: in the name where it gives one, and in each
object that the subnet refers to. -/
def Field.Agrees (p : Parameters) (s : Remote) : Field → Prop
  | .name => ∀ name, p.common.name = some name → name ≠ "" → s.name = name
  | f => Names (p.identity f) (s.reference f)

theorem agrees_iff_names {f : Field} (hf : f ≠ .name) :
    f.Agrees p s ↔ Names (p.identity f) (s.reference f) := by
  cases f with
  | name => exact absurd rfl hf
  | _ => exact Iff.rfl

theorem unsetOrEqual_nonEmpty {desired : Option String} {actual : String} :
    unsetOrEqual desired (nonEmpty actual) = true ↔
      ∀ d, desired = some d → d ≠ "" → actual = d := by
  have heq : ∀ d, d ≠ "" → (nonEmpty actual = some d ↔ actual = d) := by
    intro d hd
    rw [nonEmpty]
    split
    case isTrue h =>
      obtain rfl := String.isEmpty_iff.mp h
      exact iff_of_false nofun fun e => hd e.symm
    case isFalse h => exact Option.some_inj
  cases desired with
  | none => exact iff_of_true rfl nofun
  | some d =>
    rw [unsetOrEqual, Bool.or_eq_true, String.isEmpty_iff, beq_iff_eq]
    constructor
    · rintro (hd | hd) _ ⟨⟩ hne
      · exact absurd hd hne
      · exact (heq d hne).mp hd
    · intro h
      by_cases hd : d = ""
      · exact .inl hd
      · exact .inr ((heq d hd).mpr (h d rfl hd))

theorem same_identity {i : Option Identity} {r : Option ObjectReference} :
    Identity.same i (r.map ObjectReference.identity) = true ↔ Names i r := by
  have hid : Identity.canonicalId? (r.map ObjectReference.identity) =
      (r.map ObjectReference.id).filter fun id => !id.isEmpty := by
    cases r <;> rfl
  rw [Identity.same, hid, beq_iff_eq, Names]

/-- The fields that are updated are those that disagree. -/
theorem mem_changedFields (f : Field) : f ∈ p.changedFields s ↔ ¬ f.Agrees p s := by
  have hname : unsetOrEqual p.common.name (s.parameters p.branch).common.name = true ↔
      Field.name.Agrees p s := unsetOrEqual_nonEmpty
  have hacl : Identity.same p.common.networkAcl (s.parameters p.branch).common.networkAcl = true ↔
      Field.networkAcl.Agrees p s := same_identity
  have hgateway : Identity.same p.common.publicGateway
      (s.parameters p.branch).common.publicGateway = true ↔
      Field.publicGateway.Agrees p s := same_identity
  have htable : Identity.same p.common.routingTable
      (s.parameters p.branch).common.routingTable = true ↔
      Field.routingTable.Agrees p s := same_identity
  cases f <;> simp [Parameters.changedFields, hname, hacl, hgateway, htable]

theorem nodup_changedFields : (p.changedFields s).Nodup := by
  rw [Parameters.changedFields]
  split <;> split <;> split <;> split <;> decide

/-! ## What an update says -/

theorem wireName_injective : Function.Injective Field.wireName := by
  intro f g h
  cases f <;> cases g <;> first | rfl | exact absurd h (by decide)

/-- What an update says about a field. -/
theorem get?_patch (f : Field) : Table.get? f.wireName (p.patch s) =
    if f ∈ p.changedFields s then p.patchField f else none :=
  Json.get?_update wireName_injective nodup_changedFields f

theorem patchField_eq {f : Field} (hf : f ≠ .name) :
    p.patchField f = some (patchIdentity (p.identity f)) := by
  cases f with
  | name => exact absurd rfl hf
  | _ => rfl

/-! ## A subnet to which an update is applied -/

/-- What the cloud makes of a reference: it keeps one that the update does not speak of, sets one
that is given by its id, and removes one for which the update has an empty object. -/
inductive Attached : Option Json → Option ObjectReference → Option ObjectReference → Prop where
  | kept (r : Option ObjectReference) : Attached none r r
  | removed (r : Option ObjectReference) : Attached (some (.object [])) r none
  | set (r : Option ObjectReference) (r' : ObjectReference) :
    Attached (some (.object [("id", .string r'.id)])) r (some r')

/-- What the cloud makes of a name. -/
inductive Renamed : Option Json → String → String → Prop where
  | kept (name : String) : Renamed none name name
  | set (name name' : String) : Renamed (some (.string name')) name name'

/-- What the cloud makes of a subnet to which it applies an update. The rest of the subnet may
change in any way. -/
structure Patched (patch : Table Json) (s s' : Remote) : Prop where
  name : Renamed (Table.get? "name" patch) s.name s'.name
  reference : ∀ f, f ≠ .name →
    Attached (Table.get? f.wireName patch) (s.reference f) (s'.reference f)

/-- The object that is attached is the one declared. -/
theorem Attached.names {i : Option Identity} {r r' : Option ObjectReference}
    (h : Attached (some (patchIdentity i)) r r') : Names i r' := by
  rw [Names]
  rw [patchIdentity] at h
  cases hid : Identity.canonicalId? i with
  | none =>
    rw [hid] at h
    cases h
    rfl
  | some id =>
    rw [hid] at h
    obtain ⟨-, hset⟩ := Option.filter_eq_some_iff.mp hid
    cases h
    exact (if_pos hset).symm

theorem Renamed.eq {name name' : String} (h : Renamed none name name') : name' = name := by
  cases h
  rfl

theorem Attached.eq {r r' : Option ObjectReference} (h : Attached none r r') : r' = r := by
  cases h
  rfl

/-- What an update names agrees once it is applied. -/
theorem Patched.agrees_of_changed (h : Patched (p.patch s) s s') {f : Field}
    (hf : f ∈ p.changedFields s) : f.Agrees p s' := by
  have hget : Table.get? f.wireName (p.patch s) = p.patchField f := by
    rw [get?_patch, if_pos hf]
  by_cases hname : f = .name
  · subst hname
    intro name hgiven _
    have hrenamed := h.name
    have hsent : Table.get? "name" (p.patch s) = some (.string name) := by
      refine hget.trans ?_
      rw [Parameters.patchField, hgiven]
      rfl
    rw [hsent] at hrenamed
    generalize s'.name = after at hrenamed
    cases hrenamed
    rfl
  · have hattached := h.reference f hname
    rw [hget, patchField_eq hname] at hattached
    exact (agrees_iff_names hname).mpr hattached.names

/-- What an update does not name agrees afterwards if it agreed before. -/
theorem Patched.agrees_of_kept {patch : Table Json} (h : Patched patch s s') {f : Field}
    (hget : Table.get? f.wireName patch = none) (hf : f.Agrees p s) : f.Agrees p s' := by
  by_cases hname : f = .name
  · subst hname
    have hrenamed := h.name
    rw [show Table.get? "name" patch = none from hget] at hrenamed
    intro name hgiven hne
    exact hrenamed.eq.trans (hf name hgiven hne)
  · have hattached := h.reference f hname
    rw [hget] at hattached
    rw [agrees_iff_names hname] at hf ⊢
    rwa [hattached.eq]

/-- What an update does not name agreed before. -/
theorem agrees_of_unnamed {f : Field} (hget : Table.get? f.wireName (p.patch s) = none) :
    f.Agrees p s := by
  by_cases hf : f ∈ p.changedFields s
  · rw [get?_patch, if_pos hf] at hget
    cases f with
    | name =>
      -- a name that is not given disagrees with none
      intro name hgiven
      rw [Parameters.patchField, hgiven] at hget
      cases hget
    | _ => cases hget
  · exact Classical.not_not.mp fun h => hf ((mem_changedFields f).mpr h)

/-- **Updates of a subnet converge.** Where the cloud applies the update of a subnet, in whatever
way it changes the rest of it, the declaration agrees with what comes out: no field disagrees, so
that a second update is empty. What the update did not name agreed before. -/
theorem update_converges (h : Patched (p.patch s) s s') :
    p.changedFields s' = [] ∧ p.patch s' = [] ∧
      ∀ f : Field, Table.get? f.wireName (p.patch s) = none → f.Agrees p s := by
  have hagrees : ∀ f : Field, f.Agrees p s' := by
    intro f
    by_cases hf : f ∈ p.changedFields s
    · exact h.agrees_of_changed hf
    · have hget : Table.get? f.wireName (p.patch s) = none := by
        rw [get?_patch, if_neg hf]
      exact h.agrees_of_kept hget (agrees_of_unnamed hget)
  have hchanged : p.changedFields s' = [] :=
    List.eq_nil_iff_forall_not_mem.mpr fun f hf => (mem_changedFields f).mp hf (hagrees f)
  refine ⟨hchanged, ?_, fun f => agrees_of_unnamed⟩
  rw [Parameters.patch, hchanged]
  rfl

/-- A declared subnet: it has a name, a network ACL that is given by its URL, and a routing table
that is given by its CRN, and no gateway. -/
def declaredSubnet : Parameters :=
  ⟨⟨some "apps", none, some ⟨.href, "https://iaas/v1/network_acls/acl-2/"⟩, none, none,
    some ⟨.crn, "crn:v1:routing-table:rt-1"⟩, none, none, none⟩, .byTotalCount 256 "us-south-1"⟩

/-- The subnet in the cloud, with another name, another network ACL and a gateway. -/
def attachedSubnet : Remote :=
  ⟨"s-1", "", "", "sn", "ipv4", "10.0.0.0/24", 251, 256, .available, none,
    some ⟨"acl-1", "", "", "first"⟩, some ⟨"gw-1", "", "", ""⟩, none, some ⟨"rt-1", "", "", ""⟩,
    ⟨"v-1", "", "", "net"⟩, ⟨"us-south-1", ""⟩⟩

/-- The subnet after its update. -/
def detachedSubnet : Remote :=
  { attachedSubnet with
    name := "apps"
    networkAcl := some ⟨"acl-2", "", "", "second"⟩
    publicGateway := none }

/-- The update names what disagrees, and not the routing table; then nothing does. -/
theorem detachedSubnet_converges :
    Table.keys (declaredSubnet.patch attachedSubnet) = ["name", "network_acl", "public_gateway"] ∧
      declaredSubnet.patch detachedSubnet = [] := by
  have hpatch : declaredSubnet.patch attachedSubnet =
      [("name", .string "apps"), ("network_acl", .object [("id", .string "acl-2")]),
        ("public_gateway", .object [])] := by decide +kernel
  have applied : Patched (declaredSubnet.patch attachedSubnet) attachedSubnet detachedSubnet := by
    rw [hpatch]
    refine ⟨.set _ _, fun f hf => ?_⟩
    cases f with
    | name => exact absurd rfl hf
    | networkAcl => exact .set (some ⟨"acl-1", "", "", "first"⟩) ⟨"acl-2", "", "", "second"⟩
    | publicGateway => exact .removed _
    | routingTable => exact .kept _
  refine ⟨?_, (update_converges applied).2.1⟩
  rw [hpatch]
  rfl

end ResourceOperator.Subnet
