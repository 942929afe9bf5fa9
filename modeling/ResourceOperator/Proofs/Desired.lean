import ResourceOperator.Managed
import ResourceOperator.Proofs.Json.Nulls
import ResourceOperator.Proofs.Reference

/-!
# Desired state written back

For the desired state of each kind, `Fits` lists what its fields fit of a document: what was read
from the document fits it, and what fits it is read back from what it makes of it. Free-form
parameters of a service instance lose their null members on the way.

Results:
* `Parameters.fits_of_decode`: what was read fits.
* `Parameters.Fits.read_back`: what fits is read back, without nulls.
* `Subnet.Parameters.decode_merge_taken`: a subnet with another network is read back exactly where
  the network is.
-/

namespace ResourceOperator

open Json Json.Reader

namespace Vpc

theorem AddressPrefixManagement.persistent :
    Persistent (choice AddressPrefixManagement.named) AddressPrefixManagement.encode :=
  persistent_choice AddressPrefixManagement.named_name

namespace Parameters

/-- What the fields of a desired state fit, of the members that it is written onto. -/
structure Fits (target : List (String × Json)) (p : Parameters) : Prop where
  name : OptionalFits text (slot "name" target) p.name
  addressPrefixManagement :
    OptionalFits (choice AddressPrefixManagement.named) (slot "addressPrefixManagement" target)
      p.addressPrefixManagement
  classicAccess : OptionalFits flag (slot "classicAccess" target) p.classicAccess
  resourceGroup : Optionally Identity.Fits (slot "resourceGroup" target) p.resourceGroup

theorem fits_of_decode {v : Json} {p : Parameters} (h : Json.Fits decode v p) :
    p.Fits v.mergeable :=
  fits_of_read (Fits v.mergeable) h <|
    fits_bind fits_optional fun _ h₁ => fits_bind fits_optional fun _ h₂ =>
    fits_bind fits_optional fun _ h₃ => fits_bind fits_optional fun _ h₄ =>
    fits_pure ⟨h₁, h₂, h₃, h₄.mono fun _ => Identity.fits_of_read⟩

theorem Fits.read_back {target : Json} {p : Parameters} (h : p.Fits target.mergeable) :
    decode (target.merge p.encode) = some p := by
  have h₁ := persistent_text.optional h.name
  have h₂ := AddressPrefixManagement.persistent.optional h.addressPrefixManagement
  have h₃ := persistent_flag.optional h.classicAccess
  have h₄ := Identity.optional h.resourceGroup
  obtain ⟨name, management, classic, group⟩ := p
  simp [decode, encode, merge_object, -bind_pure_comp, h₁, h₂, h₃, h₄]

end Parameters

end Vpc

namespace ResourceInstance.Parameters

/-- What the fields of a desired state fit, of the members that it is written onto. -/
structure Fits (members : List (String × Json)) (p : Parameters) : Prop where
  name : Json.Fits text (slot "name" members) p.name
  target : Json.Fits text (slot "target" members) p.target
  resourceGroupName : Json.Fits text (slot "resourceGroupName" members) p.resourceGroupName
  serviceName : Json.Fits text (slot "serviceName" members) p.serviceName
  resourcePlanName : Json.Fits text (slot "resourcePlanName" members) p.resourcePlanName
  tags : OptionalFits (list text) (slot "tags" members) p.tags
  allowCleanup : OptionalFits flag (slot "allowCleanup" members) p.allowCleanup
  parameters : OptionalFits (given any) (slot "parameters" members) p.parameters
  entityLock : OptionalFits flag (slot "entityLock" members) p.entityLock

theorem fits_of_decode {v : Json} {p : Parameters} (h : Json.Fits decode v p) :
    p.Fits v.mergeable :=
  fits_of_read (Fits v.mergeable) h <|
    fits_bind fits_required fun _ h₁ => fits_bind fits_required fun _ h₂ =>
    fits_bind (fits_defaulted (readable_text "")) fun _ h₃ => fits_bind fits_required fun _ h₄ =>
    fits_bind (fits_defaulted (readable_text "")) fun _ h₅ => fits_bind fits_optional fun _ h₆ =>
    fits_bind fits_optional fun _ h₇ => fits_bind fits_lastOptional fun _ h₈ =>
    fits_bind fits_optional fun _ h₉ => fits_pure ⟨h₁, h₂, h₃, h₄, h₅, h₆, h₇, h₈, h₉⟩

/-- The desired state as it is stored: its free-form parameters have lost their nulls. -/
def withoutNulls (p : Parameters) : Parameters :=
  { p with parameters := p.parameters.map Json.withoutNulls }

theorem Fits.read_back {target : Json} {p : Parameters} (h : p.Fits target.mergeable) :
    decode (target.merge p.encode) = some p.withoutNulls := by
  have h₁ := persistent_text.required h.name
  have h₂ := persistent_text.required h.target
  have h₃ := persistent_text.defaulted "" h.resourceGroupName
  have h₄ := persistent_text.required h.serviceName
  have h₅ := persistent_text.defaulted "" h.resourcePlanName
  have h₆ := persistent_textList.optional h.tags
  have h₇ := persistent_flag.optional h.allowCleanup
  have h₈ := optional_any_merge h.parameters
  have h₉ := persistent_flag.optional h.entityLock
  obtain ⟨name, place, group, service, plan, tags, cleanup, parameters, lock⟩ := p
  simp [decode, encode, withoutNulls, lastOptional, merge_object, -bind_pure_comp,
    -requiredField_eq_some, h₁, h₂, h₃, h₄, h₅, h₆, h₇, h₈, h₉]

end ResourceInstance.Parameters

namespace Topic

namespace Configs

/-- What the entries of a configuration fit, of the document that it is written onto. -/
def Fits (target : Json) (c : Configs) : Prop :=
  ∀ k, OptionalFits text (slot (ConfigKey.fieldName k) target.mergeable) (c.get k)

theorem fits_of_read {target : Json} {c : Configs} (h : Json.Fits decode target c) :
    Fits target c :=
  Reader.fits_of_read (Fits target) h <|
    fits_bind fits_optional fun _ h₁ => fits_bind fits_optional fun _ h₂ =>
    fits_bind fits_optional fun _ h₃ => fits_bind fits_optional fun _ h₄ =>
    fits_bind fits_optional fun _ h₅ => fits_bind fits_optional fun _ h₆ =>
    fits_bind fits_optional fun _ h₇ => fits_pure fun k => by cases k <;> assumption

theorem Fits.read_back {target : Json} {c : Configs} (h : Fits target c) :
    decode (target.merge c.encode) = some c := by
  have hm := fun k => persistent_text.optional (h k)
  have h₁ := hm .cleanupPolicy
  have h₂ := hm .minInsyncReplicas
  have h₃ := hm .retentionBytes
  have h₄ := hm .retentionMs
  have h₅ := hm .segmentBytes
  have h₆ := hm .segmentIndexBytes
  have h₇ := hm .segmentMs
  obtain ⟨c₁, c₂, c₃, c₄, c₅, c₆, c₇⟩ := c
  simp only [Configs.get, ConfigKey.fieldName] at h₁ h₂ h₃ h₄ h₅ h₆ h₇
  simp [decode, readEach, encode, encodeWith, ConfigKey.all, ConfigKey.fieldName, Configs.get,
    merge_object, -bind_pure_comp, h₁, h₂, h₃, h₄, h₅, h₆, h₇]

/-- A configuration that fits, or a missing one, is read back. -/
theorem optional {old : Option Json} {c : Option Configs}
    (h : Optionally Fits (old.getD .null) c) :
    optionalField decode (mergeField old (c.map encode)) = some c := by
  have written (c : Configs) : c.encode ≠ .null := nofun
  exact h.read_back written fun _ _ => Fits.read_back

end Configs

namespace Parameters

/-- What the fields of a desired state fit, of the members that it is written onto. -/
structure Fits (target : List (String × Json)) (p : Parameters) : Prop where
  kafkaAdminUrl : OptionalFits text (slot "kafkaAdminUrl" target) p.kafkaAdminUrl
  kafkaAdminUrlRef :
    OptionalFits Reference.decode (slot "kafkaAdminUrlRef" target) p.kafkaAdminUrlRef
  kafkaAdminUrlSelector :
    OptionalFits Selector.decode (slot "kafkaAdminUrlSelector" target) p.kafkaAdminUrlSelector
  partitions : OptionalFits int64 (slot "partitions" target) p.partitions
  configs : Optionally Configs.Fits (slot "configs" target) p.configs

theorem fits_of_decode {v : Json} {p : Parameters} (h : Json.Fits decode v p) :
    p.Fits v.mergeable :=
  fits_of_read (Fits v.mergeable) h <|
    fits_bind fits_optional fun _ h₁ => fits_bind fits_optional fun _ h₂ =>
    fits_bind fits_optional fun _ h₃ => fits_bind fits_optional fun _ h₄ =>
    fits_bind fits_optional fun _ h₅ =>
    fits_pure ⟨h₁, h₂, h₃, h₄, h₅.mono fun _ => Configs.fits_of_read⟩

theorem Fits.read_back {target : Json} {p : Parameters} (h : p.Fits target.mergeable) :
    decode (target.merge p.encode) = some p := by
  have h₁ := persistent_text.optional h.kafkaAdminUrl
  have h₂ := Reference.persistent.optional h.kafkaAdminUrlRef
  have h₃ := Selector.persistent.optional h.kafkaAdminUrlSelector
  have h₄ := persistent_int64.optional h.partitions
  have h₅ := Configs.optional h.configs
  obtain ⟨url, ref, selector, partitions, configs⟩ := p
  simp [decode, encode, merge_object, -bind_pure_comp, h₁, h₂, h₃, h₄, h₅]

/-- The URL and its reference taken over. -/
def taken (p : Parameters) (url : Option String) (ref : Option Reference) : Parameters :=
  { p with kafkaAdminUrl := url, kafkaAdminUrlRef := ref }

theorem Fits.taken {target : List (String × Json)} {p : Parameters} (h : p.Fits target)
    {url : Option String} {ref : Option Reference} (hu : url = p.kafkaAdminUrl ∨ url.isSome)
    (hr : ref = p.kafkaAdminUrlRef ∨ p.kafkaAdminUrlRef = none) : (p.taken url ref).Fits target :=
  { h with
    kafkaAdminUrl := text_fits_taken h.kafkaAdminUrl hu
    kafkaAdminUrlRef := Reference.fits_taken h.kafkaAdminUrlRef hr }

end Parameters

end Topic

namespace ResourceKey

theorem CreateParameters.persistent :
    Persistent CreateParameters.decode CreateParameters.encode where
  written _ := nofun
  kept {target p} h := by
    have hc := fits_of_read
      (fun p : CreateParameters => OptionalFits text (slot "serviceIdCrn" target.mergeable)
        p.serviceIdCrn) h
      (fits_bind fits_optional fun _ hc => fits_pure hc)
    have hcrn := persistent_text.optional hc
    obtain ⟨crn⟩ := p
    simp [decode, encode, merge_object, -bind_pure_comp, hcrn]

namespace Parameters

/-- What the fields of a desired state fit, of the members that it is written onto. -/
structure Fits (target : List (String × Json)) (p : Parameters) : Prop where
  name : Json.Fits text (slot "name" target) p.name
  source : OptionalFits text (slot "source" target) p.source
  sourceRef : OptionalFits Reference.decode (slot "sourceRef" target) p.sourceRef
  sourceSelector : OptionalFits Selector.decode (slot "sourceSelector" target) p.sourceSelector
  role : OptionalFits text (slot "role" target) p.role
  parameters : OptionalFits CreateParameters.decode (slot "parameters" target) p.parameters

theorem fits_of_decode {v : Json} {p : Parameters} (h : Json.Fits decode v p) :
    p.Fits v.mergeable :=
  fits_of_read (Fits v.mergeable) h <|
    fits_bind fits_required fun _ h₁ => fits_bind fits_optional fun _ h₂ =>
    fits_bind fits_optional fun _ h₃ => fits_bind fits_optional fun _ h₄ =>
    fits_bind fits_optional fun _ h₅ => fits_bind fits_optional fun _ h₆ =>
    fits_pure ⟨h₁, h₂, h₃, h₄, h₅, h₆⟩

theorem Fits.read_back {target : Json} {p : Parameters} (h : p.Fits target.mergeable) :
    decode (target.merge p.encode) = some p := by
  have h₁ := persistent_text.required h.name
  have h₂ := persistent_text.optional h.source
  have h₃ := Reference.persistent.optional h.sourceRef
  have h₄ := Selector.persistent.optional h.sourceSelector
  have h₅ := persistent_text.optional h.role
  have h₆ := CreateParameters.persistent.optional h.parameters
  obtain ⟨name, source, ref, selector, role, parameters⟩ := p
  simp [decode, encode, merge_object, -bind_pure_comp, h₁, h₂, h₃, h₄, h₅, h₆]

/-- The source and its reference taken over. -/
def taken (p : Parameters) (source : Option String) (ref : Option Reference) : Parameters :=
  { p with source := source, sourceRef := ref }

theorem Fits.taken {target : List (String × Json)} {p : Parameters} (h : p.Fits target)
    {source : Option String} {ref : Option Reference} (hs : source = p.source ∨ source.isSome)
    (hr : ref = p.sourceRef ∨ p.sourceRef = none) : (p.taken source ref).Fits target :=
  { h with
    source := text_fits_taken h.source hs
    sourceRef := Reference.fits_taken h.sourceRef hr }

end Parameters

end ResourceKey

namespace Subnet

/-- What the fields common to all subnets fit, of the members that they are written onto. -/
structure Common.Fits (target : List (String × Json)) (c : Common) : Prop where
  name : OptionalFits text (slot "name" target) c.name
  ipVersion : OptionalFits text (slot "ipVersion" target) c.ipVersion
  networkAcl : Optionally Identity.Fits (slot "networkAcl" target) c.networkAcl
  publicGateway : Optionally Identity.Fits (slot "publicGateway" target) c.publicGateway
  resourceGroup : Optionally Identity.Fits (slot "resourceGroup" target) c.resourceGroup
  routingTable : Optionally Identity.Fits (slot "routingTable" target) c.routingTable
  vpc : Optionally Identity.Fits (slot "vpc" target) c.vpc
  vpcRef : OptionalFits Reference.decode (slot "vpcRef" target) c.vpcRef
  vpcSelector : OptionalFits Selector.decode (slot "vpcSelector" target) c.vpcSelector

/-- What the fields of a way of sizing fit. -/
def Sizing.Fits (target : List (String × Json)) : Sizing → Prop
  | .byTotalCount count zone =>
    Json.Fits int64 (slot "totalIpv4AddressCount" target) count ∧
      Json.Fits text (slot "zone" target) zone
  | .byCidr block zone =>
    Json.Fits text (slot "ipv4CidrBlock" target) block ∧ OptionalFits text (slot "zone" target) zone

/-- The member name of a way of sizing. -/
def Branch.name : Branch → String
  | .byTotalCount => "byTotalCount"
  | .byCidr => "byCidr"

namespace Parameters

/-- Reads a desired state that is sized in this way. -/
def decodeWay : Branch → Json → Option Parameters
  | .byTotalCount => decodeByTotalCount
  | .byCidr => decodeByCidr

/-- The members of a desired state under its way of sizing. -/
def fields (p : Parameters) : Json :=
  (p.encode.get? p.branch.name).getD .null

theorem encode_eq (p : Parameters) : p.encode = .object [(p.branch.name, p.fields)] := by
  obtain ⟨c, sizing⟩ := p
  cases sizing <;> rfl

theorem fits_readCommon (target : List (String × Json)) :
    readCommon.Fits target (Common.Fits target) :=
  fits_bind fits_optional fun _ h₁ => fits_bind fits_optional fun _ h₂ =>
  fits_bind fits_optional fun _ h₃ => fits_bind fits_optional fun _ h₄ =>
  fits_bind fits_optional fun _ h₅ => fits_bind fits_optional fun _ h₆ =>
  fits_bind fits_optional fun _ h₇ => fits_bind fits_optional fun _ h₈ =>
  fits_bind fits_optional fun _ h₉ =>
  have identities {target : Json} {i : Option Identity}
      (h : OptionalFits Identity.decode target i) : Optionally Identity.Fits target i :=
    h.mono fun _ => Identity.fits_of_read
  fits_pure ⟨h₁, h₂, identities h₃, identities h₄, identities h₅, identities h₆, identities h₇,
    h₈, h₉⟩

theorem fits_of_decodeWay {branch : Branch} {v : Json} {p : Parameters}
    (h : Json.Fits (decodeWay branch) v p) :
    p.branch = branch ∧ p.common.Fits v.mergeable ∧ p.sizing.Fits v.mergeable := by
  cases branch with
  | byTotalCount =>
    exact fits_of_readObject
      (fun p => p.branch = .byTotalCount ∧ p.common.Fits v.mergeable ∧ p.sizing.Fits v.mergeable) h
      (fits_bind (fits_readCommon _) fun _ hc =>
        fits_bind (fits_defaulted readable_zero) fun _ hn =>
        fits_bind (fits_defaulted (readable_text "")) fun _ hz => fits_pure ⟨rfl, hc, hn, hz⟩)
  | byCidr =>
    exact fits_of_readObject
      (fun p => p.branch = .byCidr ∧ p.common.Fits v.mergeable ∧ p.sizing.Fits v.mergeable) h
      (fits_bind (fits_readCommon _) fun _ hc => fits_bind fits_required fun _ hb =>
        fits_bind fits_optional fun _ hz => fits_pure ⟨rfl, hc, hb, hz⟩)

/-- A desired state is read from an object with one member, which names its way of sizing. -/
theorem decode_eq_some {v : Json} {p : Parameters} (h : decode v = some p) :
    ∃ branch w, v = .object [(branch.name, w)] ∧ decodeWay branch w = some p := by
  unfold decode at h
  split at h
  · split at h
    · exact ⟨.byTotalCount, _, rfl, h⟩
    · exact ⟨.byCidr, _, rfl, h⟩
    · cases h
  · cases h

/-- Where the network fits too, a desired state is read back, and with another network exactly
where that is. -/
theorem decodeWay_merge {target : Json} {p : Parameters} (vpc : Option Identity)
    (hc : p.common.Fits target.mergeable) (hs : p.sizing.Fits target.mergeable) :
    decodeWay p.branch (target.merge { p with common := { p.common with vpc := vpc } }.fields) =
        some { p with common := { p.common with vpc := vpc } } ↔
      optionalField Identity.decode
        (mergeField (Table.get? "vpc" target.mergeable) (vpc.map Identity.encode)) = some vpc := by
  have h₁ := persistent_text.optional hc.name
  have h₂ := persistent_text.optional hc.ipVersion
  have h₃ := Identity.optional hc.networkAcl
  have h₄ := Identity.optional hc.publicGateway
  have h₅ := Identity.optional hc.resourceGroup
  have h₆ := Identity.optional hc.routingTable
  have h₇ := Reference.persistent.optional hc.vpcRef
  have h₈ := Selector.persistent.optional hc.vpcSelector
  obtain ⟨⟨name, version, acl, gateway, group, table, vpc', ref, selector⟩, sizing⟩ := p
  cases sizing with
  | byTotalCount count zone =>
    have h₉ := persistent_int64.defaulted 0 hs.1
    have h₀ := persistent_text.defaulted "" hs.2
    simp [decodeWay, branch, Sizing.branch, decodeByTotalCount, readCommon, fields, encode,
      Branch.name, Json.get?, merge_object, -bind_pure_comp, h₁, h₂, h₃, h₄, h₅, h₆, h₇, h₈, h₉, h₀]
  | byCidr block zone =>
    have h₉ := persistent_text.required hs.1
    have h₀ := persistent_text.optional hs.2
    simp [decodeWay, branch, Sizing.branch, decodeByCidr, readCommon, fields, encode,
      Branch.name, Json.get?, merge_object, -bind_pure_comp, h₁, h₂, h₃, h₄, h₅, h₆, h₇, h₈, h₉, h₀]

/-- The network and its reference taken over. -/
def taken (p : Parameters) (vpc : Option Identity) (ref : Option Reference) : Parameters :=
  { p with common := { p.common with vpc := vpc, vpcRef := ref } }

theorem merge_fields {v : Json} {branch : Branch}
    (hv : v.mergeable = [] ∨ ∃ w, v = .object [(branch.name, w)]) {p : Parameters}
    (hp : p.branch = branch) :
    v.merge p.encode =
      .object [(branch.name, (slot branch.name v.mergeable).merge p.fields)] := by
  subst hp
  have hw : p.fields ≠ .null := by
    obtain ⟨c, sizing⟩ := p
    cases sizing <;> nofun
  rw [encode_eq, merge_object]
  rcases hv with hv | ⟨w, rfl⟩
  · simp [slot, hv, mergeMembers, Table.insert, hw]
  · simp [slot, mergeable, mergeMembers, Table.insert, hw]

theorem decode_branch (branch : Branch) (v : Json) :
    decode (.object [(branch.name, v)]) = decodeWay branch v := by
  cases branch <;> rfl

/-- A desired state fits a document that has nothing to keep, or one with a member of the name of
its way of sizing alone, and then its fields fit the members of that. -/
structure Fits (v : Json) (p : Parameters) : Prop where
  way : v.mergeable = [] ∨ ∃ w, v = .object [(p.branch.name, w)]
  common : p.common.Fits (slot p.branch.name v.mergeable).mergeable
  sizing : p.sizing.Fits (slot p.branch.name v.mergeable).mergeable

theorem fits_of_decode {v : Json} {p : Parameters} (h : Json.Fits decode v p) : p.Fits v := by
  have key : ∀ branch, Json.Fits (decodeWay branch) (slot branch.name v.mergeable) p →
      (v.mergeable = [] ∨ ∃ w, v = .object [(branch.name, w)]) → p.Fits v := by
    intro branch hf hv
    obtain ⟨rfl, hc, hs⟩ := fits_of_decodeWay hf
    exact ⟨hv, hc, hs⟩
  rcases h with ⟨hc, hd⟩ | ⟨hm, u, hc, hd⟩
  · obtain ⟨branch, w, rfl, hw⟩ := decode_eq_some hd
    have hget : Table.get? branch.name [(branch.name, w)] = some w := by simp
    refine key branch ?_ (.inr ⟨w, rfl⟩)
    rw [mergeable, slot, hget]
    exact .inl ⟨hc.member hget, hw⟩
  · obtain ⟨branch, w, rfl, hw⟩ := decode_eq_some hd
    have hget : Table.get? branch.name [(branch.name, w)] = some w := by simp
    refine key branch ?_ (.inl hm)
    rw [hm]
    exact .inr ⟨rfl, w, hc.member hget, hw⟩

theorem Fits.read_back {v : Json} {p : Parameters} (h : p.Fits v) :
    decode (v.merge p.encode) = some p := by
  rw [merge_fields h.way rfl, decode_branch]
  exact (decodeWay_merge p.common.vpc h.common h.sizing).mpr (Identity.optional h.common.vpc)

/-- A desired state with its network taken over is read back exactly where the network is. -/
theorem decode_merge_taken {v : Json} {p : Parameters} (h : p.Fits v) (vpc : Option Identity)
    {ref : Option Reference} (hr : ref = p.common.vpcRef ∨ p.common.vpcRef = none) :
    decode (v.merge (p.taken vpc ref).encode) = some (p.taken vpc ref) ↔
      optionalField Identity.decode
        (mergeField (Table.get? "vpc" (slot p.branch.name v.mergeable).mergeable)
          (vpc.map Identity.encode)) = some vpc := by
  have hc : Common.Fits (slot p.branch.name v.mergeable).mergeable
      { p.common with vpcRef := ref } :=
    { h.common with vpcRef := Reference.fits_taken h.common.vpcRef hr }
  have hp : (p.taken vpc ref).branch = p.branch := rfl
  rw [merge_fields h.way hp, decode_branch]
  exact decodeWay_merge (p := { p with common := { p.common with vpcRef := ref } }) vpc hc h.sizing

/-- The way of sizing is the one that was read, and the network comes from the member of its
name. -/
theorem vpc_of_decodeWay {branch : Branch} {v : Json} {p : Parameters}
    (h : decodeWay branch v = some p) :
    p.branch = branch ∧
      optionalField Identity.decode (Table.get? "vpc" v.mergeable) = some p.common.vpc := by
  obtain ⟨⟨name, version, acl, gateway, group, table, vpc, ref, selector⟩, sizing⟩ := p
  cases v with
  | object members =>
    cases branch <;> cases sizing <;>
      simp [decodeWay, decodeByTotalCount, decodeByCidr, readCommon, -bind_pure_comp] at h
    · exact ⟨rfl, h.2.2.2.2.2.2.1⟩
    · exact ⟨rfl, h.2.2.2.2.2.2.1⟩
  | _ => cases branch <;> cases h

theorem vpc_of_decode {v : Json} {p : Parameters} (h : decode v = some p) :
    optionalField Identity.decode
      (Table.get? "vpc" (slot p.branch.name v.mergeable).mergeable) = some p.common.vpc := by
  obtain ⟨branch, w, rfl, hw⟩ := decode_eq_some h
  have hget : Table.get? branch.name [(branch.name, w)] = some w := by simp
  obtain ⟨rfl, hvpc⟩ := vpc_of_decodeWay hw
  rw [mergeable, slot, hget]
  exact hvpc

end Parameters

end Subnet

/-! ## Every kind -/

namespace Parameters

/-- What the desired state of a kind fits, of the document that it is written onto. -/
def Fits : (k : Kind) → Json → Parameters k → Prop
  | .vpc, v, p => Vpc.Parameters.Fits v.mergeable p
  | .subnet, v, p => Subnet.Parameters.Fits v p
  | .resourceInstance, v, p => ResourceInstance.Parameters.Fits v.mergeable p
  | .resourceKey, v, p => ResourceKey.Parameters.Fits v.mergeable p
  | .topic, v, p => Topic.Parameters.Fits v.mergeable p

/-- The desired state of a kind as it is stored. Service instances alone have anything free-form
that may lose nulls. -/
def withoutNulls : (k : Kind) → Parameters k → Parameters k
  | .resourceInstance, p => ResourceInstance.Parameters.withoutNulls p
  | _, p => p

variable {k : Kind} {v : Json} {p : Parameters k}

/-- What was read from a document fits it. -/
theorem fits_of_decode (h : Json.Fits (decode k) v p) : Fits k v p := by
  cases k with
  | vpc => exact Vpc.Parameters.fits_of_decode h
  | subnet => exact Subnet.Parameters.fits_of_decode h
  | resourceInstance => exact ResourceInstance.Parameters.fits_of_decode h
  | resourceKey => exact ResourceKey.Parameters.fits_of_decode h
  | topic => exact Topic.Parameters.fits_of_decode h

/-- What fits a document is read back from what it makes of it. -/
theorem Fits.read_back (h : Fits k v p) :
    decode k (v.merge (encode k p)) = some (withoutNulls k p) := by
  cases k with
  | vpc => exact Vpc.Parameters.Fits.read_back h
  | subnet => exact Subnet.Parameters.Fits.read_back h
  | resourceInstance => exact ResourceInstance.Parameters.Fits.read_back h
  | resourceKey => exact ResourceKey.Parameters.Fits.read_back h
  | topic => exact Topic.Parameters.Fits.read_back h

end Parameters

end ResourceOperator
