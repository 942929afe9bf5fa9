import Mathlib.Data.List.Basic
import ResourceOperator.Proofs.Differing
import ResourceOperator.Proofs.Subnet.Attachment
import ResourceOperator.Proofs.Subnet.Request

/-!
# What is empty is absent

A declaration can leave out a text or an identity, or give one with nothing in it, and an answer of
the cloud can leave out a reference, or give one whose parts are all empty. The two mean the same.
They are not brought to a common form first: each request, comparison and update has to treat them
alike by itself.

Those of a subnet do, each field in its own way. A request drops what is empty, an empty name agrees
with any other, and identities are compared and sent by their canonical ids, of which an empty one
has none.

Those of a network do so for its name. For its resource group they differ in two places. The request
takes over the group that is declared, also where its identity is empty, and such a group counts as
drifted where the network has one with an id. An update speaks of the name only, and is the same.

Results:
* `EmptyForNone.congr`: a reading that drops what is empty is the same as for none.
* `Subnet.empty_is_absent`: requests, comparisons and updates of a subnet are the same.
* `Vpc.empty_told_apart_iff`: which of them are the same for a network.
-/

namespace ResourceOperator

open Cloud

/-! ## Empty values in place of none -/

section Values

variable {α β : Type} {empty : α → Prop} {a b : Option α}

/-- A value stays as it is, or an empty one takes the place of none. -/
inductive EmptyForNone (empty : α → Prop) : Option α → Option α → Prop where
  | kept (value : Option α) : EmptyForNone empty value value
  | written {value : α} (h : empty value) : EmptyForNone empty none (some value)

namespace EmptyForNone

/-- What is read is the same where the reading does not tell an empty value from none. -/
theorem congr (h : EmptyForNone empty a b) (f : Option α → β)
    (hf : ∀ value, empty value → f (some value) = f none) : f b = f a := by
  cases h with
  | kept => rfl
  | written hempty => exact hf _ hempty

/-- A value that there is stays. -/
theorem eq_of_some {value : α} (h : EmptyForNone empty a b) (ha : a = some value) : b = a := by
  cases h with
  | kept => rfl
  | written => cases ha

end EmptyForNone

end Values

section Readings

variable {name name' : Option String} {i j : Option Identity} {r r' : Option ObjectReference}

theorem requestText_congr (h : EmptyForNone (· = "") name name') :
    Subnet.requestText name' = Subnet.requestText name :=
  h.congr Subnet.requestText (by rintro _ rfl; rfl)

theorem unsetOrEqual_congr (h : EmptyForNone (· = "") name name') (actual : Option String) :
    unsetOrEqual name' actual = unsetOrEqual name actual :=
  h.congr (unsetOrEqual · actual) (by rintro _ rfl; rfl)

theorem requestName_congr (h : EmptyForNone (·.value = "") i j) :
    Subnet.requestName j = Subnet.requestName i := by
  refine h.congr Subnet.requestName fun given hempty => Subnet.requestName_of_not_given ?_
  rintro ⟨_, ⟨⟩, hne⟩
  exact hne hempty

/-- An empty identity has no canonical id. -/
theorem canonicalId?_congr (h : EmptyForNone (·.value = "") i j) :
    Identity.canonicalId? j = Identity.canonicalId? i := by
  refine h.congr Identity.canonicalId? fun given hempty => Subnet.canonicalId?_open ?_
  rintro _ ⟨⟩
  exact hempty

theorem patchIdentity_congr (h : EmptyForNone (·.value = "") i j) :
    Subnet.patchIdentity j = Subnet.patchIdentity i := by
  unfold Subnet.patchIdentity
  rw [canonicalId?_congr h]

/-- An identity and a reference are compared by the ids that there are. -/
theorem same_congr (hi : EmptyForNone (·.value = "") i j)
    (hr : EmptyForNone (· = ObjectReference.empty) r r') :
    Identity.same j (r'.map ObjectReference.identity) =
      Identity.same i (r.map ObjectReference.identity) := by
  have href : Identity.canonicalId? (r'.map ObjectReference.identity) =
      Identity.canonicalId? (r.map ObjectReference.identity) :=
    hr.congr (fun r => Identity.canonicalId? (r.map ObjectReference.identity))
      (by rintro _ rfl; rfl)
  unfold Identity.same
  rw [canonicalId?_congr hi, href]

end Readings

/-! ## Subnets -/

namespace Subnet

/-- The common part of a declaration, with something empty in place of what it leaves out. -/
structure Common.Emptied (c d : Common) : Prop where
  name : EmptyForNone (· = "") c.name d.name
  ipVersion : EmptyForNone (· = "") c.ipVersion d.ipVersion
  networkAcl : EmptyForNone (·.value = "") c.networkAcl d.networkAcl
  publicGateway : EmptyForNone (·.value = "") c.publicGateway d.publicGateway
  resourceGroup : EmptyForNone (·.value = "") c.resourceGroup d.resourceGroup
  routingTable : EmptyForNone (·.value = "") c.routingTable d.routingTable
  vpc : EmptyForNone (·.value = "") c.vpc d.vpc
  vpcRef : d.vpcRef = c.vpcRef
  vpcSelector : d.vpcSelector = c.vpcSelector

/-- A way of sizing, with an empty zone in place of none. One by number of addresses has a zone. -/
inductive Sizing.Emptied : Sizing → Sizing → Prop where
  | byTotalCount (count : Int) (zone : String) :
    Emptied (.byTotalCount count zone) (.byTotalCount count zone)
  | byCidr (block : String) {zone zone' : Option String} (h : EmptyForNone (· = "") zone zone') :
    Emptied (.byCidr block zone) (.byCidr block zone')

/-- A declaration, with something empty in place of what it leaves out. -/
structure Parameters.Emptied (p q : Parameters) : Prop where
  common : p.common.Emptied q.common
  sizing : p.sizing.Emptied q.sizing

/-- A subnet, with references to nothing in place of those that it does not have. -/
structure Remote.Emptied (s t : Remote) : Prop where
  networkAcl : EmptyForNone (· = ObjectReference.empty) s.networkAcl t.networkAcl
  publicGateway : EmptyForNone (· = ObjectReference.empty) s.publicGateway t.publicGateway
  resourceGroup : EmptyForNone (· = ObjectReference.empty) s.resourceGroup t.resourceGroup
  routingTable : EmptyForNone (· = ObjectReference.empty) s.routingTable t.routingTable
  rest : t = { s with
    networkAcl := t.networkAcl
    publicGateway := t.publicGateway
    resourceGroup := t.resourceGroup
    routingTable := t.routingTable }

variable {p q : Parameters} {s t : Remote}

theorem Common.Emptied.request_eq {c d : Common} (h : c.Emptied d) (vpc : ObjectName) :
    d.request vpc = c.request vpc := by
  unfold Common.request
  rw [requestText_congr h.name, requestText_congr h.ipVersion, requestName_congr h.networkAcl,
    requestName_congr h.publicGateway, requestName_congr h.resourceGroup,
    requestName_congr h.routingTable]

/-- The request is the same, and so is the error where none can be made. -/
theorem Parameters.Emptied.requestWith_eq (h : p.Emptied q)
    (readBlock : String → Except Net.Block.Error Net.Block) :
    q.requestWith readBlock = p.requestWith readBlock := by
  obtain ⟨c, sizing⟩ := p
  obtain ⟨d, sizing'⟩ := q
  obtain ⟨hcommon, hsizing⟩ := h
  unfold Parameters.requestWith
  dsimp only at hcommon hsizing ⊢
  rw [requestName_congr hcommon.vpc]
  cases requestName c.vpc with
  | none => rfl
  | some vpc =>
    dsimp only
    rw [hcommon.request_eq vpc]
    cases hsizing with
    | byTotalCount => rfl
    | byCidr block hzone =>
      dsimp only
      rw [requestText_congr hzone]

/-- The same fields disagree. -/
theorem Parameters.Emptied.changedFields_eq (hp : p.Emptied q) (hs : s.Emptied t) :
    q.changedFields t = p.changedFields s := by
  have hname : t.name = s.name := by rw [hs.rest]
  unfold Parameters.changedFields Remote.parameters
  dsimp only
  rw [hname, unsetOrEqual_congr hp.common.name, same_congr hp.common.networkAcl hs.networkAcl,
    same_congr hp.common.publicGateway hs.publicGateway,
    same_congr hp.common.routingTable hs.routingTable]

/-- An update says the same about a field that disagrees. The name that it sends is there, since no
other one disagrees. -/
theorem Parameters.Emptied.patchField_eq (hp : p.Emptied q) {f : Field}
    (hf : f ∈ p.changedFields s) : q.patchField f = p.patchField f := by
  cases f with
  | name =>
    have hgiven : p.common.name ≠ none := by
      intro hnone
      refine (mem_changedFields .name).mp hf fun name hname => ?_
      exact absurd (hnone.symm.trans hname) nofun
    obtain ⟨name, hname⟩ := Option.ne_none_iff_exists'.mp hgiven
    unfold Parameters.patchField
    rw [hp.common.name.eq_of_some hname]
  | networkAcl => exact congrArg some (patchIdentity_congr hp.common.networkAcl)
  | publicGateway => exact congrArg some (patchIdentity_congr hp.common.publicGateway)
  | routingTable => exact congrArg some (patchIdentity_congr hp.common.routingTable)

theorem Parameters.Emptied.patch_eq (hp : p.Emptied q) (hs : s.Emptied t) :
    q.patch t = p.patch s := by
  unfold Parameters.patch
  rw [hp.changedFields_eq hs]
  refine congrArg Table.ofList (List.flatMap_congr fun f hf => ?_)
  rw [hp.patchField_eq hf]

/-- **What is empty is absent, for subnets.** Let a declaration have something empty wherever that
takes the place of nothing: identities in any representation, the name, the IP version, and the zone
of a block. Let the subnet have references to nothing in place of references that are not there. The
request is the same, or the error with which it is refused, the same fields disagree, and the update
is the same. -/
theorem empty_is_absent (hp : p.Emptied q) (hs : s.Emptied t) :
    (∀ readBlock, q.requestWith readBlock = p.requestWith readBlock) ∧
    q.changedFields t = p.changedFields s ∧
    q.isUpToDate t = p.isUpToDate s ∧
    q.patch t = p.patch s := by
  have hchanged := hp.changedFields_eq hs
  refine ⟨hp.requestWith_eq, hchanged, ?_, hp.patch_eq hs⟩
  exact congrArg List.isEmpty hchanged

/-- A declared subnet that leaves out its name, its network and its zone. -/
def sparseSubnet : Parameters :=
  ⟨⟨none, none, none, some ⟨.id, "gw-1"⟩, none, none, none, none, none⟩, .byCidr "10.0.0.0/24" none⟩

/-- The same with empty values, in each representation. -/
def hollowSubnet : Parameters :=
  ⟨⟨some "", some "", some ⟨.href, ""⟩, some ⟨.id, "gw-1"⟩, some ⟨.crn, ""⟩, none, some ⟨.id, ""⟩,
    none, none⟩, .byCidr "10.0.0.0/24" (some "")⟩

/-- A subnet with a reference to a network ACL and perhaps one to a gateway. -/
def gatewaySubnet (gateway : Option ObjectReference) : Remote :=
  ⟨"s-1", "", "", "apps", "ipv4", "10.0.0.0/24", 251, 256, .available, none,
    some ⟨"acl-1", "", "", "first"⟩, gateway, none, none, ⟨"v-1", "", "", "net"⟩, ⟨"us-south-1", ""⟩⟩

/-- The network ACL is detached and the gateway attached, and a request is refused, with empty
values as with none. -/
theorem hollowSubnet_same :
    hollowSubnet.request =
      .error (.invalidConfiguration "subnet has no VPC; set vpc, vpcRef or vpcSelector") ∧
    hollowSubnet.changedFields (gatewaySubnet (some .empty)) = [.networkAcl, .publicGateway] ∧
    hollowSubnet.isUpToDate (gatewaySubnet (some .empty)) = false ∧
    hollowSubnet.patch (gatewaySubnet (some .empty)) =
      [("network_acl", .object []), ("public_gateway", .object [("id", .string "gw-1")])] := by
  have hp : sparseSubnet.Emptied hollowSubnet :=
    ⟨⟨.written rfl, .written rfl, .written rfl, .kept _, .written rfl, .kept _, .written rfl, rfl,
      rfl⟩, .byCidr _ (.written rfl)⟩
  have hs : (gatewaySubnet none).Emptied (gatewaySubnet (some .empty)) :=
    ⟨.kept _, .written rfl, .kept _, .kept _, rfl⟩
  obtain ⟨hrequest, hchanged, hdate, hpatch⟩ := empty_is_absent hp hs
  exact ⟨hrequest Net.Block.parse, hchanged, hdate, hpatch⟩

end Subnet

/-! ## Networks -/

namespace Vpc

/-- A declaration, with something empty in place of what it leaves out. -/
structure Parameters.Emptied (p q : Parameters) : Prop where
  name : EmptyForNone (· = "") p.name q.name
  resourceGroup : EmptyForNone (·.value = "") p.resourceGroup q.resourceGroup
  rest : q = { p with name := q.name, resourceGroup := q.resourceGroup }

variable {p q : Parameters}

theorem Parameters.Emptied.changedFields_eq (h : p.Emptied q) (v : Remote) :
    q.changedFields v = p.changedFields v := by
  unfold Parameters.changedFields
  rw [unsetOrEqual_congr h.name]

theorem Parameters.Emptied.patch_eq (h : p.Emptied q) (v : Remote) : q.patch v = p.patch v := by
  unfold Parameters.patch
  rw [h.changedFields_eq v]
  refine congrArg Table.ofList (List.flatMap_congr fun f hf => ?_)
  cases f with
  | name =>
    -- a name that is sent is there
    obtain ⟨name, hname⟩ : ∃ name, p.name = some name := by
      by_contra hnone
      refine (mem_changedFields p v .name).mp hf fun name hname => ?_
      obtain ⟨given, hgiven, -⟩ := Option.bind_eq_some_iff.mp hname
      exact absurd ⟨given, hgiven⟩ hnone
    rw [h.name.eq_of_some hname]

theorem ofIdentity_injective : Function.Injective ObjectName.ofIdentity := by
  rintro ⟨form, value⟩ ⟨form', value'⟩ h
  cases form <;> cases form' <;> cases h <;> rfl

/-- A request takes over the group that is declared. -/
theorem request_resourceGroup_eq_some_iff {i : Identity} :
    p.request.resourceGroup = some (.ofIdentity i) ↔ p.resourceGroup = some i := by
  refine ⟨fun h => ?_, congrArg (Option.map ObjectName.ofIdentity)⟩
  obtain ⟨j, hj, hname⟩ := Option.map_eq_some_iff.mp h
  rw [hj, ofIdentity_injective hname]

/-- The requests are the same where the groups are. -/
theorem Parameters.Emptied.request_eq_iff (h : p.Emptied q) :
    q.request = p.request ↔ q.resourceGroup = p.resourceGroup := by
  constructor
  · intro hrequest
    have hnames := congrArg Request.resourceGroup hrequest
    exact Option.map_injective ofIdentity_injective hnames
  · intro hgroup
    have hname : q.name.filter (fun n => !n.isEmpty) = p.name.filter (fun n => !n.isEmpty) :=
      requestText_congr h.name
    have hmanagement : q.addressPrefixManagement = p.addressPrefixManagement := by rw [h.rest]
    have hclassic : q.classicAccess = p.classicAccess := by rw [h.rest]
    unfold Parameters.request
    rw [hname, hmanagement, hclassic, hgroup]

/-- An empty identity names the object of a reference where that has no id. -/
theorem names_of_empty_iff {given : Identity} (h : given.value = "") {r : Option ObjectReference} :
    Subnet.Names (some given) r ↔ ∀ ref, r = some ref → ref.id = "" := by
  have hnothing : Identity.canonicalId? (some given) = none :=
    canonicalId?_congr (.written h)
  cases r with
  | none => exact iff_of_true hnothing nofun
  | some ref =>
    rw [Subnet.names_nothing_iff hnothing]
    constructor
    · rintro hid _ ⟨⟩
      exact hid
    · intro hall
      exact hall ref rfl

/-- The same fixed fields have drifted where the groups are the same, or the network has no group
with an id. -/
theorem Parameters.Emptied.driftedFields_eq_iff (h : p.Emptied q) (v : Remote) :
    q.driftedFields v = p.driftedFields v ↔
      q.resourceGroup = p.resourceGroup ∨ ∀ r, v.resourceGroup = some r → r.id = "" := by
  have hclassic : q.classicAccess = p.classicAccess := by rw [h.rest]
  have hgroup := h.resourceGroup
  unfold Parameters.driftedFields
  dsimp only
  rw [hclassic, List.append_cancel_left_eq]
  generalize q.resourceGroup = group' at hgroup ⊢
  generalize p.resourceGroup = group at hgroup ⊢
  cases hgroup with
  | kept => exact iff_of_true rfl (.inl rfl)
  | @written given hempty =>
    have hsame : Identity.same (some given) v.parameters.resourceGroup = true ↔
        ∀ r, v.resourceGroup = some r → r.id = "" :=
      Subnet.same_identity.trans (names_of_empty_iff hempty)
    rw [← hsame]
    by_cases hagree : Identity.same (some given) v.parameters.resourceGroup = true
    · rw [hagree]
      exact iff_of_true rfl (.inr rfl)
    · rw [Bool.not_eq_true] at hagree
      rw [hagree]
      exact iff_of_false nofun (by simp)

/-- **What is empty is absent, for networks, in the name and in updates only.** Let a declaration
have an empty name or an empty group in place of none. The same fields disagree, and the update is
the same. The request is not the same where the group is empty in place of none, and then the group
counts as drifted where the network has one with an id. A request carries an identity without a value
exactly if the declaration has one. -/
theorem empty_told_apart_iff (h : p.Emptied q) (v : Remote) :
    q.changedFields v = p.changedFields v ∧
    q.patch v = p.patch v ∧
    (q.request = p.request ↔ q.resourceGroup = p.resourceGroup) ∧
    (q.driftedFields v = p.driftedFields v ↔
      q.resourceGroup = p.resourceGroup ∨ ∀ r, v.resourceGroup = some r → r.id = "") ∧
    (∀ form, q.request.resourceGroup = some (.ofIdentity ⟨form, ""⟩) ↔
      q.resourceGroup = some ⟨form, ""⟩) :=
  ⟨h.changedFields_eq v, h.patch_eq v, h.request_eq_iff, h.driftedFields_eq_iff v,
    fun _ => request_resourceGroup_eq_some_iff⟩

/-- A declared network with perhaps a name and a resource group. -/
def declaredNetwork (name : Option String) (group : Option Identity) : Parameters :=
  ⟨name, none, some false, group⟩

/-- A network that belongs to a resource group. -/
def groupedNetwork : Remote :=
  ⟨"r006-1", "", "", "net", false, none, .available, some ⟨"rg-1", "", "", "default"⟩, none, none,
    none⟩

/-- A group with an empty id is sent with the request, and counts as drifted. -/
theorem emptyGroup_told_apart :
    (declaredNetwork (some "") (some (.byId ""))).changedFields groupedNetwork = [] ∧
    (declaredNetwork (some "") (some (.byId ""))).request.resourceGroup =
      some ⟨some "", none, none⟩ ∧
    (declaredNetwork (some "") (some (.byId ""))).request ≠ (declaredNetwork none none).request ∧
    (declaredNetwork (some "") (some (.byId ""))).driftedFields groupedNetwork ≠
      (declaredNetwork none none).driftedFields groupedNetwork := by
  have h : (declaredNetwork none none).Emptied (declaredNetwork (some "") (some (.byId ""))) :=
    ⟨.written rfl, .written rfl, rfl⟩
  obtain ⟨hchanged, -, hrequest, hdrifted, hcarried⟩ := empty_told_apart_iff h groupedNetwork
  refine ⟨hchanged, (hcarried .id).mpr rfl, fun heq => ?_, fun heq => ?_⟩
  · exact absurd (hrequest.mp heq) nofun
  · rcases hdrifted.mp heq with hgroup | hid
    · exact absurd hgroup nofun
    · exact absurd (hid _ rfl) (by decide)

end Vpc

end ResourceOperator
