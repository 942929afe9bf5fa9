import Mathlib.Tactic.Tauto
import ResourceOperator.Proofs.Filling
import ResourceOperator.Proofs.Topic.Agreement

/-!
# Filling only what is unset

Late initialization adopts from an object what its declaration leaves open. A field that is set is
never overwritten. A field that is unset takes what the object has there, unless it has nothing. What
counts as unset, and what there is to take, depends on the kind of field, and each kind has its
relation here, all of them instances of one (`Fills`): a value that may be absent, a text that may
be absent or empty, a text that may be empty, an identity that may be absent or empty, and a number
that may be zero.

For each kind of resource a structure lists every field of a declaration with its relation, also the
fields that are never filled: references, selectors, and the way in which a subnet is sized.

Results:
* `Filled.ofText_fills`, and one lemma for each kind of field.
* `Filled.ofIdentity_changed_iff`: the mark of a filled identity is exact.
* `FillsOption.eq_or` and its like: the value after filling is what was given, or what was found.
* `Vpc.onlyFills`, and the same for subnets, keys and topics: late initialization fills what is
  unset, marks every change, and is done after one run (`OnlyFills`).
* `late_initialization_only_fills`: this for the four kinds.
-/

namespace ResourceOperator

open Cloud

/-! ## Fields -/

/-- What becomes of a field, which may be unset, where something may be found to fill it with. -/
inductive Fills {α : Type} (unset : Prop) (found : Option α) (before : α) : α → Prop where
  /-- The field was set, or nothing was found. -/
  | kept (h : unset → found = none) : Fills unset found before before
  /-- The field was unset, and it is now what was found. -/
  | filled {v : α} (hunset : unset) (hfound : found = some v) : Fills unset found before v

theorem Fills.kept_or_found {α : Type} {unset : Prop} {found : Option α} {before after : α}
    (h : Fills unset found before after) : after = before ∨ unset ∧ found = some after := by
  cases h with
  | kept _ => exact .inl rfl
  | filled hunset hfound => exact .inr ⟨hunset, hfound⟩

/-- A value that is unset when it is absent. -/
def FillsOption {α : Type} (observed before after : Option α) : Prop :=
  Fills (before = none) (observed.map some) before after

/-- A text that is unset when it is absent or empty. -/
def FillsText (observed : String) (before after : Option String) : Prop :=
  Fills (before = none ∨ before = some "") ((nonEmpty observed).map some) before after

/-- A text that is unset when it is empty. -/
def FillsRequired (observed before after : String) : Prop :=
  Fills (before = "") (nonEmpty observed) before after

/-- A number that is unset when it is zero. -/
def FillsCount (observed before after : Int) : Prop :=
  Fills (before = 0) (if 0 < observed then some observed else none) before after

/-- What a reference has for an identity: its id if there is no identity, else the value in the
representation of the identity. -/
def foundIdentity (observed : Option ObjectReference) : Option Identity → Option Identity
  | none => (observed.bind fun r => nonEmpty r.id).map .byId
  | some i => (observed.bind fun r => nonEmpty (r.part i.form)).map i.withValue

/-- An identity that is unset when it is absent or has an empty value. -/
def FillsIdentity (observed : Option ObjectReference) (before after : Option Identity) : Prop :=
  Fills (∀ i, before = some i → i.value = "") ((foundIdentity observed before).map some) before
    after

theorem nonEmpty_of_isEmpty {s : String} (h : s.isEmpty = true) : nonEmpty s = none :=
  if_pos h

theorem nonEmpty_of_not_isEmpty {s : String} (h : ¬ s.isEmpty = true) : nonEmpty s = some s :=
  if_neg h

theorem nonEmpty_eq_none_iff {s : String} : nonEmpty s = none ↔ s = "" := by
  rw [← String.isEmpty_iff]
  by_cases h : s.isEmpty = true
  · exact iff_of_true (nonEmpty_of_isEmpty h) h
  · rw [nonEmpty_of_not_isEmpty h]
    exact iff_of_false nofun h

theorem nonEmpty_eq_some_iff {s value : String} :
    nonEmpty s = some value ↔ s = value ∧ value ≠ "" := by
  by_cases h : s = ""
  · rw [nonEmpty_eq_none_iff.mpr h]
    refine iff_of_false nofun ?_
    rintro ⟨rfl, hne⟩
    exact hne h
  · rw [nonEmpty_of_not_isEmpty fun he => h (String.isEmpty_iff.mp he), Option.some_inj]
    constructor
    · rintro rfl
      exact ⟨rfl, h⟩
    · exact And.left

theorem forall_nonEmpty_iff {text : String} {P : String → Prop} :
    (∀ value, nonEmpty text = some value → P value) ↔ (text ≠ "" → P text) := by
  constructor
  · intro h hne
    exact h text (nonEmpty_eq_some_iff.mpr ⟨rfl, hne⟩)
  · intro h value hvalue
    obtain ⟨rfl, hne⟩ := nonEmpty_eq_some_iff.mp hvalue
    exact h hne

namespace Filled

variable {α : Type}

theorem ofOption_fills (desired observed : Option α) :
    FillsOption observed desired (ofOption desired observed).value := by
  cases desired with
  | some v => exact .kept nofun
  | none =>
    cases observed with
    | none => exact .kept fun _ => rfl
    | some v => exact .filled rfl rfl

theorem ofText_fills (desired : Option String) (observed : String) :
    FillsText observed desired (ofText desired observed).value := by
  have hunset : (desired.getD "").isEmpty = true ↔ desired = none ∨ desired = some "" := by
    cases desired <;> simp
  unfold ofText FillsText
  by_cases hobserved : observed.isEmpty = true
  · rw [nonEmpty_of_isEmpty hobserved, if_neg (by simp [hobserved])]
    exact .kept fun _ => rfl
  · rw [nonEmpty_of_not_isEmpty hobserved]
    by_cases h : (desired.getD "").isEmpty = true
    · rw [if_pos (by simp [h, hobserved])]
      exact .filled (hunset.mp h) rfl
    · rw [if_neg (by simp [h])]
      exact .kept fun hu => absurd (hunset.mpr hu) h

theorem ofRequired_fills (desired observed : String) :
    FillsRequired observed desired (ofRequired desired observed).value := by
  unfold ofRequired FillsRequired
  by_cases hobserved : observed.isEmpty = true
  · rw [nonEmpty_of_isEmpty hobserved, if_neg (by simp [hobserved])]
    exact .kept fun _ => rfl
  · rw [nonEmpty_of_not_isEmpty hobserved]
    by_cases h : desired.isEmpty = true
    · rw [if_pos (by simp [h, hobserved])]
      exact .filled (String.isEmpty_iff.mp h) rfl
    · rw [if_neg (by simp [h])]
      exact .kept fun hu => absurd (String.isEmpty_iff.mpr hu) h

theorem ofIdentity_none (r : ObjectReference) : ofIdentity none (some r) =
    if r.id.isEmpty then keep none else ⟨some (.byId r.id), true⟩ := rfl

theorem ofIdentity_some (i : Identity) (r : ObjectReference) : ofIdentity (some i) (some r) =
    if i.isEmpty && !(r.part i.form).isEmpty then ⟨some (i.withValue (r.part i.form)), true⟩
    else keep (some i) := rfl

theorem ofIdentity_fills (desired : Option Identity) (observed : Option ObjectReference) :
    FillsIdentity observed desired (ofIdentity desired observed).value := by
  unfold FillsIdentity
  cases observed with
  | none =>
    refine .kept fun _ => ?_
    cases desired <;> rfl
  | some r =>
    cases desired with
    | none =>
      rw [ofIdentity_none]
      by_cases hid : r.id.isEmpty = true
      · rw [if_pos hid]
        refine .kept fun _ => ?_
        simp [foundIdentity, nonEmpty_of_isEmpty hid]
      · rw [if_neg hid]
        refine .filled nofun ?_
        simp [foundIdentity, nonEmpty_of_not_isEmpty hid]
    | some i =>
      rw [ofIdentity_some]
      by_cases hpart : (r.part i.form).isEmpty = true
      · rw [if_neg (by simp [hpart])]
        refine .kept fun _ => ?_
        simp [foundIdentity, nonEmpty_of_isEmpty hpart]
      · by_cases hvalue : i.isEmpty = true
        · rw [if_pos (by simp [hvalue, hpart])]
          refine .filled ?_ ?_
          · rintro _ ⟨⟩
            exact String.isEmpty_iff.mp hvalue
          · simp [foundIdentity, nonEmpty_of_not_isEmpty hpart]
        · rw [if_neg (by simp [hvalue])]
          refine .kept fun hu => ?_
          exact absurd (String.isEmpty_iff.mpr (hu i rfl)) hvalue

/-- The mark of `ofIdentity` is set exactly when the value differs. -/
theorem ofIdentity_changed_iff (desired : Option Identity) (observed : Option ObjectReference) :
    (ofIdentity desired observed).changed = true ↔
      (ofIdentity desired observed).value ≠ desired := by
  cases observed with
  | none => simp [ofIdentity, keep]
  | some r =>
    cases desired with
    | none =>
      rw [ofIdentity_none]
      by_cases hid : r.id.isEmpty = true
      · simp [hid, keep]
      · simp [hid]
    | some i =>
      rw [ofIdentity_some]
      by_cases hfill : (i.isEmpty && !(r.part i.form).isEmpty) = true
      · -- what is taken is not empty
        rw [if_pos hfill]
        refine iff_of_true rfl fun he => ?_
        have hvalue : r.part i.form = i.value := congrArg Identity.value (Option.some.inj he)
        rw [hvalue] at hfill
        simp [Identity.isEmpty] at hfill
      · rw [if_neg hfill]
        simp [keep]

end Filled

/-! ## Values after filling -/

theorem FillsOption.eq_or {α : Type} {observed before after : Option α}
    (h : FillsOption observed before after) : after = before.or observed := by
  cases before with
  | some v =>
    rcases h.kept_or_found with hkept | ⟨hunset, -⟩
    · exact hkept
    · exact absurd hunset nofun
  | none =>
    cases h with
    | kept hnone => exact (Option.map_eq_none_iff.mp (hnone rfl)).symm
    | filled _ hfound =>
      obtain ⟨v, rfl, rfl⟩ := Option.map_eq_some_iff.mp hfound
      rfl

theorem FillsRequired.nonEmpty_eq_or {observed before after : String}
    (h : FillsRequired observed before after) :
    nonEmpty after = (nonEmpty before).or (nonEmpty observed) := by
  by_cases hbefore : before = ""
  · rw [nonEmpty_eq_none_iff.mpr hbefore, Option.none_or]
    cases h with
    | kept hnone => rw [nonEmpty_eq_none_iff.mpr hbefore, hnone hbefore]
    | filled _ hfound =>
      obtain ⟨rfl, -⟩ := nonEmpty_eq_some_iff.mp hfound
      rfl
  · rcases h.kept_or_found with hkept | ⟨hunset, -⟩
    · rw [hkept, nonEmpty_eq_some_iff.mpr ⟨rfl, hbefore⟩, Option.some_or]
    · exact absurd hunset hbefore

theorem FillsText.bind_nonEmpty_eq_or {observed : String} {before after : Option String}
    (h : FillsText observed before after) :
    after.bind nonEmpty = (before.bind nonEmpty).or (nonEmpty observed) := by
  have hunset : before = none ∨ before = some "" ↔ before.bind nonEmpty = none := by
    cases before with
    | none => exact iff_of_true (.inl rfl) rfl
    | some text =>
      rw [Option.bind_some, nonEmpty_eq_none_iff]
      simp
  cases hbefore : before.bind nonEmpty with
  | none =>
    rw [Option.none_or]
    cases h with
    | kept hnone =>
      rw [hbefore, Option.map_eq_none_iff.mp (hnone (hunset.mpr hbefore))]
    | filled _ hfound =>
      obtain ⟨v, hv, rfl⟩ := Option.map_eq_some_iff.mp hfound
      obtain ⟨rfl, -⟩ := nonEmpty_eq_some_iff.mp hv
      rfl
  | some text =>
    rcases h.kept_or_found with hkept | ⟨hopen, -⟩
    · rw [hkept, hbefore, Option.some_or]
    · exact absurd ((hunset.mp hopen).symm.trans hbefore) nofun

open Filled

/-! ## Late initialization -/

/-- A way of filling that does to each field what `fills` says, marks what it changes, and is done
after one run. -/
structure OnlyFills {α : Type} (fill : α → Filled α) (fills : α → α → Prop) : Prop where
  fields : ∀ p, fills p (fill p).value
  marked : ∀ p, (fill p).changed = true ↔ (fill p).value ≠ p
  again : ∀ p, fill (fill p).value = keep (fill p).value

/-- The fields of a declared network. -/
structure Vpc.FilledFrom (v : Remote) (before after : Parameters) : Prop where
  name : FillsText v.name before.name after.name
  addressPrefixManagement : after.addressPrefixManagement = before.addressPrefixManagement
  classicAccess : FillsOption (some v.classicAccess) before.classicAccess after.classicAccess
  resourceGroup : FillsIdentity v.resourceGroup before.resourceGroup after.resourceGroup

theorem Vpc.onlyFills (v : Remote) : OnlyFills (·.lateInitialize v) (FilledFrom v) where
  fields p :=
    { name := ofText_fills p.name v.name
      addressPrefixManagement := rfl
      classicAccess := ofOption_fills p.classicAccess (some v.classicAccess)
      resourceGroup := ofIdentity_fills p.resourceGroup v.resourceGroup }
  marked p := by
    obtain ⟨name, management, classic, group⟩ := p
    simp only [Parameters.lateInitialize, Bool.or_eq_true, ofText_changed_iff, ofOption_changed_iff,
      ofIdentity_changed_iff, ne_eq, Parameters.mk.injEq]
    tauto
  again p := p.lateInitialize_again v

namespace Subnet

/-- The fields of a declared subnet that do not depend on how it is sized. -/
structure Common.FilledFrom (s : Remote) (before after : Common) : Prop where
  name : FillsText s.name before.name after.name
  ipVersion : FillsText s.ipVersion before.ipVersion after.ipVersion
  networkAcl : FillsIdentity s.networkAcl before.networkAcl after.networkAcl
  publicGateway : FillsIdentity s.publicGateway before.publicGateway after.publicGateway
  resourceGroup : FillsIdentity s.resourceGroup before.resourceGroup after.resourceGroup
  routingTable : FillsIdentity s.routingTable before.routingTable after.routingTable
  /-- A subnet without an id of its network has nothing to fill it with. -/
  vpc : FillsIdentity (if s.vpc.id.isEmpty then none else some s.vpc) before.vpc after.vpc
  vpcRef : after.vpcRef = before.vpcRef
  vpcSelector : after.vpcSelector = before.vpcSelector

/-- The fields of a way of sizing, which stays what it is. -/
inductive Sizing.FilledFrom (s : Remote) : Sizing → Sizing → Prop where
  | byTotalCount {count count' : Int} {zone zone' : String}
    (hcount : FillsCount s.totalIpv4AddressCount count count')
    (hzone : FillsRequired s.zone.name zone zone') :
    FilledFrom s (.byTotalCount count zone) (.byTotalCount count' zone')
  | byCidr {block block' : String} {zone zone' : Option String}
    (hblock : FillsRequired s.ipv4CidrBlock block block')
    (hzone : FillsText s.zone.name zone zone') :
    FilledFrom s (.byCidr block zone) (.byCidr block' zone')

/-- The fields of a declared subnet. -/
structure FilledFrom (s : Remote) (before after : Parameters) : Prop where
  common : Common.FilledFrom s before.common after.common
  sizing : Sizing.FilledFrom s before.sizing after.sizing

theorem Common.onlyFills (s : Remote) :
    OnlyFills (·.lateInitialize s) (Common.FilledFrom s) where
  fields c :=
    { name := ofText_fills c.name s.name
      ipVersion := ofText_fills c.ipVersion s.ipVersion
      networkAcl := ofIdentity_fills c.networkAcl s.networkAcl
      publicGateway := ofIdentity_fills c.publicGateway s.publicGateway
      resourceGroup := ofIdentity_fills c.resourceGroup s.resourceGroup
      routingTable := ofIdentity_fills c.routingTable s.routingTable
      vpc := ofIdentity_fills c.vpc _
      vpcRef := rfl
      vpcSelector := rfl }
  marked c := by
    obtain ⟨name, ipVersion, acl, gateway, group, table, vpc, vpcRef, selector⟩ := c
    simp only [Common.lateInitialize, Bool.or_eq_true, ofText_changed_iff, ofIdentity_changed_iff,
      ne_eq, Common.mk.injEq]
    tauto
  again c := c.lateInitialize_again s

theorem Sizing.onlyFills (s : Remote) :
    OnlyFills (·.lateInitialize s) (Sizing.FilledFrom s) where
  fields sizing := by
    cases sizing with
    | byTotalCount count zone =>
      refine .byTotalCount ?_ (ofRequired_fills zone s.zone.name)
      unfold FillsCount
      by_cases hfill : count = 0 ∧ 0 < s.totalIpv4AddressCount
      · rw [if_pos hfill, if_pos hfill.2]
        exact .filled hfill.1 rfl
      · rw [if_neg hfill]
        refine .kept fun hcount => ?_
        exact if_neg fun hpositive => hfill ⟨hcount, hpositive⟩
    | byCidr block zone =>
      exact .byCidr (ofRequired_fills block s.ipv4CidrBlock) (ofText_fills zone s.zone.name)
  marked sizing := by
    cases sizing with
    | byTotalCount count zone =>
      by_cases hfill : count = 0 ∧ 0 < s.totalIpv4AddressCount
      · -- the count that is filled in is not zero
        have hchanged : s.totalIpv4AddressCount ≠ count := by omega
        simp only [Sizing.lateInitialize, if_pos hfill, Bool.true_or, ne_eq,
          Sizing.byTotalCount.injEq]
        tauto
      · simp only [Sizing.lateInitialize, if_neg hfill, keep, Bool.or_eq_true, ofRequired_changed_iff,
          ne_eq, Sizing.byTotalCount.injEq]
        tauto
    | byCidr block zone =>
      simp only [Sizing.lateInitialize, Bool.or_eq_true, ofRequired_changed_iff, ofText_changed_iff,
        ne_eq, Sizing.byCidr.injEq]
      tauto
  again sizing := sizing.lateInitialize_again s

theorem onlyFills (s : Remote) : OnlyFills (·.lateInitialize s) (FilledFrom s) where
  fields p :=
    { common := (Common.onlyFills s).fields p.common
      sizing := (Sizing.onlyFills s).fields p.sizing }
  marked p := by
    have hcommon := (Common.onlyFills s).marked p.common
    have hsizing := (Sizing.onlyFills s).marked p.sizing
    obtain ⟨common, sizing⟩ := p
    simp only [Parameters.lateInitialize, Bool.or_eq_true, hcommon, hsizing, ne_eq,
      Parameters.mk.injEq]
    tauto
  again p := p.lateInitialize_again s

end Subnet

/-- The fields of a declared key. -/
structure ResourceKey.FilledFrom (k : Remote) (before after : Parameters) : Prop where
  name : after.name = before.name
  source : FillsText k.sourceCrn before.source after.source
  sourceRef : after.sourceRef = before.sourceRef
  sourceSelector : after.sourceSelector = before.sourceSelector
  role : FillsOption (k.credential "iam_role_crn") before.role after.role
  parameters : after.parameters = before.parameters

theorem ResourceKey.onlyFills (k : Remote) : OnlyFills (·.lateInitialize k) (FilledFrom k) where
  fields p :=
    { name := rfl
      source := ofText_fills p.source k.sourceCrn
      sourceRef := rfl
      sourceSelector := rfl
      role := ofOption_fills p.role (k.credential "iam_role_crn")
      parameters := rfl }
  marked p := by
    obtain ⟨name, source, sourceRef, selector, role, parameters⟩ := p
    simp only [Parameters.lateInitialize, Bool.or_eq_true, ofText_changed_iff, ofOption_changed_iff,
      ne_eq, Parameters.mk.injEq]
    tauto
  again p := p.lateInitialize_again k

namespace Topic

/-- The fields of a declared topic. An entry of the configuration takes the value of the same
entry. -/
structure FilledFrom (t : Remote) (before after : Parameters) : Prop where
  kafkaAdminUrl : after.kafkaAdminUrl = before.kafkaAdminUrl
  kafkaAdminUrlRef : after.kafkaAdminUrlRef = before.kafkaAdminUrlRef
  kafkaAdminUrlSelector : after.kafkaAdminUrlSelector = before.kafkaAdminUrlSelector
  partitions : FillsOption t.partitions? before.partitions after.partitions
  entry : ∀ k, FillsOption (t.configs.get k) (before.entry k) (after.entry k)
  /-- There is a configuration where one is declared, or where there is an entry to take. -/
  configs : after.configs = none ↔ before.configs = none ∧ t.configs = .empty

theorem get_empty (k : ConfigKey) : Configs.empty.get k = none := by
  cases k <;> rfl

theorem get_orElse (c observed : Configs) (k : ConfigKey) :
    (c.orElse observed).get k = (ofOption (c.get k) (observed.get k)).value := by
  unfold Configs.orElse
  rw [Configs.get_ofView]
  cases c.get k <;> cases observed.get k <;> rfl

theorem fillConfigs_fills (desired : Option Configs) (observed : Configs) (k : ConfigKey) :
    FillsOption (observed.get k) (desired.bind fun c => c.get k)
      ((fillConfigs desired observed).value.bind fun c => c.get k) := by
  cases desired with
  | some c =>
    unfold fillConfigs
    simp only [Option.bind_some, get_orElse]
    exact ofOption_fills (c.get k) (observed.get k)
  | none =>
    unfold fillConfigs
    by_cases hempty : observed = .empty
    · rw [if_pos hempty, hempty, get_empty]
      exact .kept fun _ => rfl
    · rw [if_neg hempty]
      simp only [Option.bind_some, Option.bind_none]
      cases observed.get k with
      | none => exact .kept fun _ => rfl
      | some value => exact .filled rfl rfl

theorem fillConfigs_changed_iff (desired : Option Configs) (observed : Configs) :
    (fillConfigs desired observed).changed = true ↔
      (fillConfigs desired observed).value ≠ desired := by
  cases desired with
  | some c =>
    have hsame : c.orElse observed = c ↔
        ∀ k, (ofOption (c.get k) (observed.get k)).value = c.get k := by
      constructor
      · intro he k
        rw [← get_orElse, he]
      · intro hk
        exact Configs.ext_get fun k => (get_orElse c observed k).trans (hk k)
    unfold fillConfigs
    simp [ConfigKey.mem_all, ofOption_changed_iff, hsame]
  | none =>
    unfold fillConfigs
    by_cases hempty : observed = .empty
    · simp [hempty, keep]
    · simp [hempty]

theorem onlyFills (t : Remote) : OnlyFills (·.lateInitialize t) (FilledFrom t) where
  fields p :=
    { kafkaAdminUrl := rfl
      kafkaAdminUrlRef := rfl
      kafkaAdminUrlSelector := rfl
      partitions := ofOption_fills p.partitions t.partitions?
      entry := fillConfigs_fills p.configs t.configs
      configs := by
        show (fillConfigs p.configs t.configs).value = none ↔ _
        unfold fillConfigs
        cases p.configs with
        | some c => simp
        | none => by_cases hempty : t.configs = .empty <;> simp [hempty, keep] }
  marked p := by
    obtain ⟨url, urlRef, selector, partitions, configs⟩ := p
    simp only [Parameters.lateInitialize, Bool.or_eq_true, ofOption_changed_iff,
      fillConfigs_changed_iff, ne_eq, Parameters.mk.injEq]
    tauto
  again p := p.lateInitialize_again t

end Topic

/-- **Late initialization only fills.** Of the declaration of a network, a subnet, a key or a topic
it keeps each field, or the field was unset and is now what the object has there; references,
selectors and the way of sizing a subnet are never changed. It is marked as a change exactly when it
is one, and when it is run again with the same object it changes nothing and marks nothing. -/
theorem late_initialization_only_fills :
    (∀ v : Vpc.Remote, OnlyFills (Vpc.Parameters.lateInitialize · v) (Vpc.FilledFrom v)) ∧
    (∀ s : Subnet.Remote,
      OnlyFills (Subnet.Parameters.lateInitialize · s) (Subnet.FilledFrom s)) ∧
    (∀ k : ResourceKey.Remote,
      OnlyFills (ResourceKey.Parameters.lateInitialize · k) (ResourceKey.FilledFrom k)) ∧
    (∀ t : Topic.Remote, OnlyFills (Topic.Parameters.lateInitialize · t) (Topic.FilledFrom t)) :=
  ⟨Vpc.onlyFills, Subnet.onlyFills, ResourceKey.onlyFills, Topic.onlyFills⟩

end ResourceOperator
