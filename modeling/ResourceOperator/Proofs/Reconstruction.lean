import ResourceOperator.Proofs.Differing
import ResourceOperator.Proofs.ResourceInstance.Lookups
import ResourceOperator.Proofs.Subnet.Convergence

/-!
# Reconstructed declarations are fixed points

The desired state that is reconstructed from an object is compared with that object, updated to it
and filled in from it, by functions that have each their own reading of the object. They agree: the
reconstructed state differs in nothing, and nothing is missing in it. This holds of every object,
also of one whose texts are empty, whose references have no id, whose counts are not positive, or
whose tags are listed twice.

There is one thing that is left open. The reconstruction of a service instance does not look up the
name of the resource group, and late initialization does.

Results:
* `Filled.ofText_nonEmpty`, and one lemma for each way to fill a field: a field that is
  reconstructed is kept.
* `Vpc.fixedPoint`, and the same for subnets, keys and topics.
* `ResourceInstance.changedFields_reconstructed`, `ResourceInstance.lateInitialize_reconstructed`:
  this for a service instance, with the names that the catalog has.
* `reconstruction_fixed`: all five kinds.
* `taggedCache_reconstructed`: a service instance of which only the resource group is filled in.
-/

namespace ResourceOperator

open Cloud

/-! ## Fields that are reconstructed -/

theorem unsetOrEqual_self (a : Option String) : unsetOrEqual a a = true := by
  cases a with
  | none => rfl
  | some text =>
    rw [unsetOrEqual, BEq.rfl, Bool.or_true]

theorem Identity.same_self (i : Option Identity) : Identity.same i i = true :=
  BEq.rfl

namespace Filled

variable {α : Type}

theorem ofOption_self (a : Option α) : ofOption a a = keep a := by
  cases a <;> rfl

theorem ofOption_filter (a : Option α) (p : α → Bool) : ofOption a (a.filter p) = keep a := by
  cases a <;> rfl

theorem ofRequired_self (text : String) : ofRequired text text = keep text := by
  unfold ofRequired
  rw [Bool.and_not_self]
  rfl

theorem ofRequired_empty (text : String) : ofRequired "" text = ⟨text, !text.isEmpty⟩ := by
  by_cases h : text = ""
  · rw [h]
    rfl
  · rw [Bool.eq_false_iff.mpr (mt String.isEmpty_iff.mp h)]
    exact if_pos (by simp [h])

theorem ofText_nonEmpty (text : String) :
    ofText (nonEmpty text) text = keep (nonEmpty text) := by
  unfold ofText
  by_cases h : text.isEmpty = true
  · exact if_neg (by simp [h])
  · rw [nonEmpty_of_not_isEmpty h]
    exact if_neg (by simp [h])

/-- A reference without an id is reconstructed as an empty identity, which nothing can fill. -/
theorem ofIdentity_identity (r : Option ObjectReference) :
    ofIdentity (r.map ObjectReference.identity) r = keep (r.map ObjectReference.identity) := by
  cases r with
  | none => rfl
  | some ref =>
    show ofIdentity (some ref.identity) (some ref) = keep (some ref.identity)
    have hsame : ref.part ref.identity.form = ref.identity.value := rfl
    rw [ofIdentity_some, hsame]
    exact if_neg (by simp [Identity.isEmpty])

end Filled

open Filled

/-- A declaration that is a fixed point of late initialization, of the comparison and of updates. -/
structure FixedPoint {Parameters Field : Type} (desired : Parameters) (filled : Filled Parameters)
    (changed : List Field) (patch : Table Json) (upToDate : Bool) : Prop where
  unchanged : changed = []
  silent : patch = []
  upToDate : upToDate = true
  kept : filled = keep desired

/-! ## Networks -/

namespace Vpc

variable (v : Remote)

theorem changedFields_parameters : v.parameters.changedFields v = [] :=
  if_pos (unsetOrEqual_self v.parameters.name)

theorem lateInitialize_parameters : v.parameters.lateInitialize v = keep v.parameters := by
  have hname : ofText v.parameters.name v.name = keep v.parameters.name := ofText_nonEmpty v.name
  have hgroup : ofIdentity v.parameters.resourceGroup v.resourceGroup =
      keep v.parameters.resourceGroup := ofIdentity_identity v.resourceGroup
  have hclassic : ofOption v.parameters.classicAccess (some v.classicAccess) =
      keep v.parameters.classicAccess := ofOption_self (some v.classicAccess)
  unfold Parameters.lateInitialize
  rw [hname, hgroup, hclassic]
  rfl

theorem fixedPoint : FixedPoint v.parameters (v.parameters.lateInitialize v)
    (v.parameters.changedFields v) (v.parameters.patch v) (v.parameters.isUpToDate v) where
  unchanged := changedFields_parameters v
  silent := (settled_of_changedFields_nil (changedFields_parameters v)).2
  upToDate := (settled_of_changedFields_nil (changedFields_parameters v)).1
  kept := lateInitialize_parameters v

theorem driftedFields_parameters : v.parameters.driftedFields v = [] := by
  unfold Parameters.driftedFields
  simp [Identity.same_self]

end Vpc

/-! ## Subnets -/

namespace Subnet

variable (s : Remote) (branch : Branch)

theorem branch_parameters : (s.parameters branch).branch = branch := by
  cases branch <;> rfl

theorem changedFields_parameters : (s.parameters branch).changedFields s = [] := by
  unfold Parameters.changedFields
  rw [branch_parameters]
  simp [unsetOrEqual_self, Identity.same_self]

theorem common_lateInitialize_parameters :
    (s.parameters branch).common.lateInitialize s = keep (s.parameters branch).common := by
  have hvpc : ofIdentity ((nonEmpty s.vpc.id).map Identity.byId)
      (if s.vpc.id.isEmpty then none else some s.vpc) =
      keep ((nonEmpty s.vpc.id).map Identity.byId) := by
    by_cases h : s.vpc.id.isEmpty = true
    · rw [nonEmpty_of_isEmpty h, if_pos h]
      rfl
    · rw [nonEmpty_of_not_isEmpty h, if_neg h]
      exact ofIdentity_identity (some s.vpc)
  unfold Remote.parameters Common.lateInitialize
  simp only [ofText_nonEmpty, ofIdentity_identity, hvpc]
  rfl

theorem sizing_lateInitialize_parameters :
    (s.parameters branch).sizing.lateInitialize s = keep (s.parameters branch).sizing := by
  cases branch with
  | byTotalCount =>
    have hcount : ¬ (s.totalIpv4AddressCount = 0 ∧ 0 < s.totalIpv4AddressCount) := by omega
    unfold Remote.parameters Sizing.lateInitialize
    simp only [if_neg hcount, ofRequired_self]
    rfl
  | byCidr =>
    unfold Remote.parameters Sizing.lateInitialize
    simp only [ofRequired_self, ofText_nonEmpty]
    rfl

theorem lateInitialize_parameters :
    (s.parameters branch).lateInitialize s = keep (s.parameters branch) := by
  unfold Parameters.lateInitialize
  rw [common_lateInitialize_parameters, sizing_lateInitialize_parameters]
  rfl

theorem fixedPoint : FixedPoint (s.parameters branch) ((s.parameters branch).lateInitialize s)
    ((s.parameters branch).changedFields s) ((s.parameters branch).patch s)
    ((s.parameters branch).isUpToDate s) where
  unchanged := changedFields_parameters s branch
  silent := (settled_of_changedFields_nil (changedFields_parameters s branch)).2
  upToDate := (settled_of_changedFields_nil (changedFields_parameters s branch)).1
  kept := lateInitialize_parameters s branch

theorem drifted_self (sizing : Sizing) : sizing.drifted sizing = [] := by
  cases sizing with
  | byTotalCount count zone =>
    unfold Sizing.drifted
    simp [unsetOrEqual_self]
  | byCidr block zone =>
    unfold Sizing.drifted
    simp [unsetOrEqual_self]

theorem driftedFields_parameters : (s.parameters branch).driftedFields s = [] := by
  unfold Parameters.driftedFields
  rw [branch_parameters]
  simp [unsetOrEqual_self, Identity.same_self, drifted_self]

end Subnet

/-! ## Resource keys -/

namespace ResourceKey

variable (k : Remote)

theorem changedFields_parameters : k.parameters.changedFields k = [] :=
  if_pos (unsetOrEqual_self (some k.name))

theorem lateInitialize_parameters : k.parameters.lateInitialize k = keep k.parameters := by
  have hsource : ofText k.parameters.source k.sourceCrn = keep k.parameters.source :=
    ofText_nonEmpty k.sourceCrn
  have hrole : ofOption k.parameters.role (k.credential "iam_role_crn") =
      keep k.parameters.role := ofOption_self (k.credential "iam_role_crn")
  unfold Parameters.lateInitialize
  rw [hsource, hrole]
  rfl

theorem fixedPoint : FixedPoint k.parameters (k.parameters.lateInitialize k)
    (k.parameters.changedFields k) (k.parameters.patch k) (k.parameters.isUpToDate k) where
  unchanged := changedFields_parameters k
  silent := (settled_of_changedFields_nil (changedFields_parameters k)).2
  upToDate := (settled_of_changedFields_nil (changedFields_parameters k)).1
  kept := lateInitialize_parameters k

end ResourceKey

/-! ## Topics -/

namespace Topic

variable (t : Remote) (url : Option String)

theorem changedFields_parameters : (t.parameters url).changedFields t = [] := by
  refine List.eq_nil_iff_forall_not_mem.mpr fun f hf => (mem_changedFields f).mp hf ?_
  cases f with
  | partitions => exact fun _ h => h
  | config k => exact fun _ h => h

theorem lateInitialize_parameters :
    (t.parameters url).lateInitialize t = keep (t.parameters url) := by
  have hpartitions : ofOption (t.parameters url).partitions t.partitions? =
      keep (t.parameters url).partitions := ofOption_self t.partitions?
  have hconfigs : fillConfigs (t.parameters url).configs t.configs =
      keep (t.parameters url).configs :=
    fillConfigs_of_filled fun k => ofOption_self (t.configs.get k)
  unfold Parameters.lateInitialize
  rw [hpartitions, hconfigs]
  rfl

theorem fixedPoint : FixedPoint (t.parameters url) ((t.parameters url).lateInitialize t)
    ((t.parameters url).changedFields t) ((t.parameters url).patch t)
    ((t.parameters url).isUpToDate t.name t) where
  unchanged := changedFields_parameters t url
  silent := (settled_of_changedFields_nil (changedFields_parameters t url)).1
  upToDate := ((settled_of_changedFields_nil (changedFields_parameters t url)).2 t.name).mpr rfl
  kept := lateInitialize_parameters t url

end Topic

/-! ## Service instances -/

namespace ResourceInstance

variable {r : Remote} {catalog : Catalog.Answers} {service plan group : String}

theorem parametersOf_run (hplan : (planName service r.resourcePlanId).run catalog = .ok plan) :
    (r.parametersOf service).run catalog = .ok (r.parametersWith service plan) := by
  unfold Remote.parametersOf
  rw [Dialogue.bind_eq, Dialogue.run_bind, hplan]
  rfl

/-- The order of the tags does not count. -/
theorem tagSet_mergeSort (tags : List String) :
    tagSet (tags.mergeSort fun a b => decide (a ≤ b)) = tagSet tags := by
  refine (sorted_tagSet _).ext (sorted_tagSet _) fun x => ?_
  rw [mem_tagSet, mem_tagSet, List.mem_mergeSort]

/-- An instance has what is reconstructed from it. -/
theorem has_reconstructed (hr : r.Distinct) {f : Field} {value : f.Value}
    (h : (r.parametersWith service plan).given f = some value) : r.Has plan f value := by
  cases f with
  | name => exact (nonEmpty_eq_some_iff.mp h).1
  | plan => exact (nonEmpty_eq_some_iff.mp h).1
  | parameters => exact hr.contained h
  | allowCleanup => exact Option.some.inj h
  | tags =>
    obtain rfl := Option.some.inj h
    exact tagSet_mergeSort r.tags

theorem changedFields_reconstructed (hr : r.Distinct)
    (hplan : (planName service r.resourcePlanId).run catalog = .ok plan) :
    ((r.parametersWith service plan).changedFields r).run catalog = .ok [] := by
  rw [run_changedFields (p := r.parametersWith service plan) hplan]
  refine congrArg Except.ok (List.eq_nil_iff_forall_not_mem.mpr fun f hf => ?_)
  exact (mem_changedFieldsWith f).mp hf
    ((agrees_iff_has f).mpr fun value hvalue => has_reconstructed hr hvalue)

/-- What is reconstructed has all that is reported. -/
theorem fillReported_reconstructed :
    Parameters.fillReported { r.parametersWith service plan with resourceGroupName := group } r =
      keep { r.parametersWith service plan with resourceGroupName := group } := by
  have hparameters : ofOption r.parameters (r.parameters.filter informative) = keep r.parameters :=
    ofOption_filter r.parameters informative
  unfold Parameters.fillReported Remote.parametersWith
  simp only [hparameters]
  rfl

/-- Only the name of the resource group is filled in, where there is one. -/
theorem lateInitialize_reconstructed
    (hplan : (planName service r.resourcePlanId).run catalog = .ok plan)
    (hgroup : (groupName r.resourceGroupId).run catalog = .ok group) :
    ((r.parametersWith service plan).lateInitialize r).run catalog =
      (.ok (!group.isEmpty),
        { r.parametersWith service plan with resourceGroupName := group }) := by
  have hlooked : (looked plan (planName service r.resourcePlanId)).run catalog = .ok "" := by
    unfold looked
    by_cases h : plan.isEmpty = true
    · rw [if_pos h, hplan, String.isEmpty_iff.mp h]
    · rw [if_neg h]
      rfl
  have hkept : ofRequired plan "" = keep plan := if_neg (by simp)
  have hnamed : (r.parametersWith service plan).named r group "" =
      { r.parametersWith service plan with resourceGroupName := group } := by
    unfold Parameters.named Remote.parametersWith
    simp only [ofRequired_self, ofRequired_empty, hkept]
    rfl
  refine Parameters.run_lateInitialize.mpr ⟨group, "", hgroup, hlooked, ?_, ?_⟩
  · rw [hnamed, fillReported_reconstructed]
    simp [Remote.parametersWith, ofRequired_self, ofRequired_empty, hkept, keep]
  · rw [hnamed, fillReported_reconstructed]
    rfl

theorem run_planName_finding (told : CatalogCall → String) :
    (planName service r.resourcePlanId).run (finding told) = .ok (planTold told service r) := by
  unfold planName planTold toldIf
  by_cases h : service ≠ "" ∧ r.resourcePlanId ≠ ""
  · rw [if_neg (by simp [h]), if_pos h]
    rfl
  · have hunknown : (r.resourcePlanId.isEmpty || service.isEmpty) = true := by
      rw [Bool.or_eq_true, String.isEmpty_iff, String.isEmpty_iff]
      tauto
    rw [if_pos hunknown, if_neg h]
    rfl

theorem run_groupName_finding (told : CatalogCall → String) :
    (groupName r.resourceGroupId).run (finding told) = .ok (groupTold told r) := by
  unfold groupName groupTold toldIf
  by_cases h : r.resourceGroupId = ""
  · rw [if_pos (String.isEmpty_iff.mpr h), if_neg (not_not.mpr h)]
    rfl
  · rw [if_neg (mt String.isEmpty_iff.mp h), if_pos h]
    rfl

end ResourceInstance

/-! ## The five kinds -/

/-- **Reconstruction is a fixed point.** The desired state that is reconstructed from an object
differs in no field, so that the update is empty and there is nothing to update; none of the fields
that are fixed at creation has drifted; and late initialization changes nothing. A subnet is
reconstructed in either way of sizing, and a topic behind any admin URL.

A service instance is reconstructed with the name that the catalog has for its plan, and no tags are
to be changed. Late initialization fills in the name of the resource group, where there is one, and
is marked as a change only then. The parameters of the instance have each member once, as those of
every instance that the cloud reports do (`ResourceInstance.Remote.distinct_of_readable`). -/
theorem reconstruction_fixed :
    (∀ v : Vpc.Remote,
      FixedPoint v.parameters (v.parameters.lateInitialize v) (v.parameters.changedFields v)
        (v.parameters.patch v) (v.parameters.isUpToDate v) ∧
      v.parameters.driftedFields v = []) ∧
    (∀ (s : Subnet.Remote) (branch : Subnet.Branch),
      FixedPoint (s.parameters branch) ((s.parameters branch).lateInitialize s)
        ((s.parameters branch).changedFields s) ((s.parameters branch).patch s)
        ((s.parameters branch).isUpToDate s) ∧
      (s.parameters branch).driftedFields s = []) ∧
    (∀ k : ResourceKey.Remote,
      FixedPoint k.parameters (k.parameters.lateInitialize k) (k.parameters.changedFields k)
        (k.parameters.patch k) (k.parameters.isUpToDate k)) ∧
    (∀ (t : Topic.Remote) (url : Option String),
      FixedPoint (t.parameters url) ((t.parameters url).lateInitialize t)
        ((t.parameters url).changedFields t) ((t.parameters url).patch t)
        ((t.parameters url).isUpToDate t.name t)) ∧
    (∀ (r : ResourceInstance.Remote) (service : String) (told : CatalogCall → String),
      r.Distinct → ∃ desired : ResourceInstance.Parameters,
        (r.parametersOf service).run (ResourceInstance.finding told) = .ok desired ∧
        (desired.changedFields r).run (ResourceInstance.finding told) = .ok [] ∧
        (desired.patch r).run (ResourceInstance.finding told) = .ok [] ∧
        (desired.isUpToDate r).run (ResourceInstance.finding told) = .ok true ∧
        desired.tagChanges r = ([], []) ∧
        (desired.lateInitialize r).run (ResourceInstance.finding told) =
          (.ok (!(ResourceInstance.groupTold told r).isEmpty),
            { desired with resourceGroupName := ResourceInstance.groupTold told r })) := by
  refine ⟨fun v => ⟨Vpc.fixedPoint v, Vpc.driftedFields_parameters v⟩,
    fun s branch => ⟨Subnet.fixedPoint s branch, Subnet.driftedFields_parameters s branch⟩,
    ResourceKey.fixedPoint, Topic.fixedPoint, ?_⟩
  intro r service told hr
  have hplan : (ResourceInstance.planName service r.resourcePlanId).run
      (ResourceInstance.finding told) = .ok (ResourceInstance.planTold told service r) :=
    ResourceInstance.run_planName_finding told
  have hgroup := ResourceInstance.run_groupName_finding (r := r) told
  have hchanged := ResourceInstance.changedFields_reconstructed hr hplan
  obtain ⟨hpatch, hsettled, htags⟩ := ResourceInstance.settled_of_changedFields_nil hchanged
  exact ⟨_, ResourceInstance.parametersOf_run hplan, hchanged, hpatch, hsettled, htags,
    ResourceInstance.lateInitialize_reconstructed hplan hgroup⟩

namespace ResourceInstance

/-- A cache in the cloud that has parameters, and a tag twice. -/
def taggedCache : Remote :=
  { grownCache with
    parameters := some (.object [("disk", .ofNat 4), ("memory", .ofNat 1)])
    tags := ["team-b", "team-a", "team-b"] }

/-- It differs in nothing, and the name of its resource group is filled in. -/
theorem taggedCache_reconstructed : ∃ desired : Parameters,
    (taggedCache.parametersOf "redis").run (finding names) = .ok desired ∧
      (desired.changedFields taggedCache).run (finding names) = .ok [] ∧
      desired.tagChanges taggedCache = ([], []) ∧
      (desired.lateInitialize taggedCache).run (finding names) =
        (.ok true, { desired with resourceGroupName := "default" }) := by
  have hdistinct : taggedCache.Distinct := by
    rintro _ ⟨⟩
    decide
  obtain ⟨desired, hrun, hchanged, -, -, htags, hfilled⟩ :=
    reconstruction_fixed.2.2.2.2 taggedCache "redis" names hdistinct
  exact ⟨desired, hrun, hchanged, htags, hfilled⟩

end ResourceInstance

end ResourceOperator
