import Mathlib.Data.List.Forall2
import ResourceOperator.Proofs.Identity
import ResourceOperator.Proofs.ResourceInstance.Agreement
import ResourceOperator.Proofs.Subnet.Convergence
import ResourceOperator.Proofs.Topic.Agreement
import ResourceOperator.ResourceKey.Mapping
import ResourceOperator.Vpc.Mapping

/-!
# What updates say

Each kind has two readings of a declaration beside what is there: the fields that disagree, and the
update that is sent. They are two functions, and they say the same. An update has a member for each
field that disagrees, with the value that is declared, and no other member; so there is nothing to
update exactly where the update is empty. What is fixed at creation is not among the fields that can
change, and no update speaks of it.

Two kinds have more to them. The tags of a service instance are changed by calls of their own, and
its plan is declared by name and sent by id. Of a topic an update has at most two members, and one of
them lists the entries that disagree.

An object is declared by an identity and sent by its id. Where no object is named, what is sent is an
empty object, which detaches (`Identity.Sent`).

Results:
* `Vpc.updateOf_patch`, and the same for each kind: an update is exact.
* `Vpc.isUpToDate_iff`, and the same for each kind: when nothing is to be updated.
* `Vpc.settled_of_changedFields_nil`, and the same for each kind: nothing disagrees.
* `updates_exact`: this for the five kinds.
* `slashed_network_acl`: a URL of nothing but slashes is set, and it is sent as one that is not.
-/

namespace ResourceOperator

open Json

/-- What an update carries for an object that is declared by an identity: its canonical id, or an
empty object where there is no id. -/
inductive Identity.Sent : Option Identity → Json → Prop where
  | byId {i : Identity} (h : i.canonicalId ≠ "") :
    Sent (some i) (.object [("id", .string i.canonicalId)])
  | unset : Sent none (.object [])
  | empty {i : Identity} (h : i.isEmpty = true) : Sent (some i) (.object [])
  | slashes {i : Identity} (hform : i.form = .href) (h : ∀ c ∈ i.value.toList, c = '/') :
    Sent (some i) (.object [])

theorem Identity.sent_patchIdentity (i : Option Identity) : Sent i (Subnet.patchIdentity i) := by
  unfold Subnet.patchIdentity
  cases i with
  | none => exact .unset
  | some i =>
    by_cases h : i.canonicalId = ""
    · rw [canonicalId?_none h]
      rcases canonicalId_eq_empty_iff.mp h with hempty | ⟨hform, hslashes⟩
      · exact .empty hempty
      · exact .slashes hform hslashes
    · rw [canonicalId?_some h]
      exact .byId h

/-! ## Networks -/

namespace Vpc

variable {p : Parameters} {v : Remote}

/-- The name of a field in an update. -/
def Field.wireName : Field → String
  | .name => "name"

/-- The value that an update is to have for a field. -/
def Parameters.Wants (p : Parameters) : Field → Json → Prop
  | .name, value => ∃ name, p.name = some name ∧ value = .string name

theorem updateOf_patch :
    UpdateOf Field.wireName (· ∈ p.changedFields v) p.Wants (p.patch v) := by
  have hname : Function.Injective Field.wireName := fun | .name, .name, _ => rfl
  have hnodup : (p.changedFields v).Nodup := by
    unfold Parameters.changedFields
    split <;> decide
  refine updateOf_members (fun | .name => p.name.map .string) hname hnodup fun f hf => ?_
  cases f
  cases hp : p.name with
  | none =>
    -- a name that is not given disagrees with none
    simp [Parameters.changedFields, hp, unsetOrEqual] at hf
  | some name => exact ⟨.string name, rfl, name, hp, rfl⟩

theorem isUpToDate_iff : p.isUpToDate v = true ↔ p.patch v = [] :=
  updateOf_patch.isEmpty_iff

theorem settled_of_changedFields_nil (h : p.changedFields v = []) :
    p.isUpToDate v = true ∧ p.patch v = [] := by
  have hsettled : p.isUpToDate v = true := by
    unfold Parameters.isUpToDate
    rw [h]
    rfl
  exact ⟨hsettled, isUpToDate_iff.mp hsettled⟩

end Vpc

/-! ## Subnets -/

namespace Subnet

variable {p : Parameters} {s : Remote}

/-- The value that an update is to have for a field: a name that is declared, and of an object its
id. -/
def Parameters.Wants (p : Parameters) : Field → Json → Prop
  | .name, value => ∃ name, p.common.name = some name ∧ value = .string name
  | f, value => Identity.Sent (p.identity f) value

theorem updateOf_patch :
    UpdateOf Field.wireName (· ∈ p.changedFields s) p.Wants (p.patch s) := by
  refine updateOf_members p.patchField wireName_injective nodup_changedFields fun f hf => ?_
  cases f with
  | name =>
    cases hp : p.common.name with
    | none =>
      simp [Parameters.changedFields, hp, unsetOrEqual] at hf
    | some name =>
      refine ⟨.string name, ?_, name, hp, rfl⟩
      unfold Parameters.patchField
      rw [hp]
      rfl
  | networkAcl => exact ⟨_, rfl, Identity.sent_patchIdentity p.common.networkAcl⟩
  | publicGateway => exact ⟨_, rfl, Identity.sent_patchIdentity p.common.publicGateway⟩
  | routingTable => exact ⟨_, rfl, Identity.sent_patchIdentity p.common.routingTable⟩

theorem isUpToDate_iff : p.isUpToDate s = true ↔ p.patch s = [] :=
  updateOf_patch.isEmpty_iff

theorem settled_of_changedFields_nil (h : p.changedFields s = []) :
    p.isUpToDate s = true ∧ p.patch s = [] := by
  have hsettled : p.isUpToDate s = true := by
    unfold Parameters.isUpToDate
    rw [h]
    rfl
  exact ⟨hsettled, isUpToDate_iff.mp hsettled⟩

end Subnet

/-! ## Resource keys -/

namespace ResourceKey

variable {p : Parameters} {k : Remote}

/-- The name of a field in an update. -/
def Field.wireName : Field → String
  | .name => "name"

/-- The value that an update is to have for a field. -/
def Parameters.Wants (p : Parameters) : Field → Json → Prop
  | .name, value => value = .string p.name

theorem updateOf_patch :
    UpdateOf Field.wireName (· ∈ p.changedFields k) p.Wants (p.patch k) := by
  have hname : Function.Injective Field.wireName := fun | .name, .name, _ => rfl
  have hnodup : (p.changedFields k).Nodup := by
    unfold Parameters.changedFields
    split <;> decide
  have hpatch : p.patch k = Table.ofList (fieldMembers Field.wireName
      (fun | .name => some (.string p.name)) (p.changedFields k)) := by
    unfold Parameters.patch fieldMembers
    rw [List.map_eq_flatMap]
    rfl
  rw [hpatch]
  exact updateOf_members _ hname hnodup fun f hf => ⟨.string p.name, rfl, rfl⟩

theorem isUpToDate_iff : p.isUpToDate k = true ↔ p.patch k = [] :=
  updateOf_patch.isEmpty_iff

theorem settled_of_changedFields_nil (h : p.changedFields k = []) :
    p.isUpToDate k = true ∧ p.patch k = [] := by
  have hsettled : p.isUpToDate k = true := by
    unfold Parameters.isUpToDate
    rw [h]
    rfl
  exact ⟨hsettled, isUpToDate_iff.mp hsettled⟩

end ResourceKey

/-! ## Service instances -/

namespace ResourceInstance

open Cloud

variable {p : Parameters} {r : Remote} {catalog : Catalog.Answers} {fields : List Field}
  {patch : Patch}

/-- The value that an update is to have for a field, where the plan is sent by the id that the
catalog has for its name. No update speaks of tags. -/
def Parameters.Wants (p : Parameters) (catalog : Catalog.Answers) : Field → Json → Prop
  | .name, value => value = .string p.name
  | .plan, value => ∃ id,
    catalog (.planId p.serviceName p.resourcePlanName) = .ok id ∧ value = .string id
  | .parameters, value => p.parameters = some value
  | .allowCleanup, value => ∃ allowed, p.allowCleanup = some allowed ∧ value = .bool allowed
  | .tags, _ => False

/-- The fields that disagree are those that do beside the name of the plan that there is. -/
theorem exists_plan (h : (p.changedFields r).run catalog = .ok fields) :
    ∃ plan, fields = p.changedFieldsWith r plan := by
  unfold Parameters.changedFields at h
  rw [Dialogue.bind_eq, Dialogue.run_bind] at h
  cases hplan : (planName p.serviceName r.resourcePlanId).run catalog with
  | error e =>
    rw [hplan] at h
    cases h
  | ok plan =>
    rw [hplan] at h
    cases h
    exact ⟨plan, rfl⟩

/-- An update is made of the fields that disagree, and of the id of the declared plan if the plan is
among them. -/
theorem exists_planId (hfields : (p.changedFields r).run catalog = .ok fields)
    (hpatch : (p.patch r).run catalog = .ok patch) :
    ∃ planId, patch = p.patchWith fields planId ∧
      (.plan ∈ fields → catalog (.planId p.serviceName p.resourcePlanName) = .ok planId) := by
  unfold Parameters.patch at hpatch
  rw [Dialogue.bind_eq, Dialogue.run_bind, hfields] at hpatch
  dsimp only at hpatch
  by_cases hplan : .plan ∈ fields
  · rw [if_pos (List.contains_iff_mem.mpr hplan)] at hpatch
    have hfound : ((catalog (.planId p.serviceName p.resourcePlanName)).mapError
        (EngineError.lookup "cannot look up resource plan id")).map (p.patchWith fields) =
        .ok patch := hpatch
    cases hid : catalog (.planId p.serviceName p.resourcePlanName) with
    | error e =>
      rw [hid] at hfound
      cases hfound
    | ok planId =>
      rw [hid] at hfound
      cases hfound
      exact ⟨planId, rfl, fun _ => rfl⟩
  · rw [if_neg fun hc => hplan (List.contains_iff_mem.mp hc)] at hpatch
    cases hpatch
    exact ⟨"", rfl, fun hmem => absurd hmem hplan⟩

theorem updateOf_patch (hfields : (p.changedFields r).run catalog = .ok fields)
    (hpatch : (p.patch r).run catalog = .ok patch) :
    UpdateOf Field.wireName (fun f => f ∈ fields ∧ f ≠ .tags) (p.Wants catalog) patch := by
  obtain ⟨planId, rfl, hid⟩ := exists_planId hfields hpatch
  obtain ⟨plan, rfl⟩ := exists_plan hfields
  rw [patchWith_eq]
  refine updateOf_fieldMembers (p.said planId) wireName_injective nodup_changedFieldsWith ?_ ?_
  · rintro f ⟨hf, htags⟩
    refine ⟨hf, ?_⟩
    have hsaid : p.said planId f ≠ none := said_ne_none hf htags
    obtain ⟨value, hvalue⟩ := Option.ne_none_iff_exists'.mp hsaid
    refine ⟨value, hvalue, ?_⟩
    cases f with
    | name =>
      cases hvalue
      rfl
    | plan =>
      cases hvalue
      exact ⟨planId, hid hf, rfl⟩
    | parameters => exact hvalue
    | allowCleanup =>
      obtain ⟨allowed, hallowed, rfl⟩ := Option.map_eq_some_iff.mp hvalue
      exact ⟨allowed, hallowed, rfl⟩
    | tags => exact absurd rfl htags
  · intro f hf hnot
    have htags : f = .tags := Classical.byContradiction fun hne => hnot ⟨hf, hne⟩
    rw [htags]
    rfl

/-- Nothing is to be updated where the update is empty and no tags are to be changed. -/
theorem isUpToDate_iff (hfields : (p.changedFields r).run catalog = .ok fields)
    (hpatch : (p.patch r).run catalog = .ok patch) :
    ∃ upToDate, (p.isUpToDate r).run catalog = .ok upToDate ∧
      (upToDate = true ↔ patch = [] ∧ p.tagChanges r = ([], [])) := by
  refine ⟨fields.isEmpty, ?_, ?_⟩
  · unfold Parameters.isUpToDate
    rw [Dialogue.bind_eq, Dialogue.run_bind, hfields]
    rfl
  · obtain ⟨plan, hplan⟩ := exists_plan hfields
    have htags : p.tagChanges r = ([], []) ↔ .tags ∉ fields := by
      rw [hplan, mem_changedFieldsWith, Classical.not_not]
      exact tagChanges_eq_nil_iff
    rw [(updateOf_patch hfields hpatch).eq_nil_iff, htags, List.isEmpty_iff,
      List.eq_nil_iff_forall_not_mem]
    constructor
    · intro hnone
      exact ⟨fun f hf => hnone f hf.1, hnone .tags⟩
    · rintro ⟨hother, htags⟩ f hf
      by_cases h : f = .tags
      · rw [h] at hf
        exact htags hf
      · exact hother f ⟨hf, h⟩

theorem settled_of_changedFields_nil (h : (p.changedFields r).run catalog = .ok []) :
    (p.patch r).run catalog = .ok [] ∧ (p.isUpToDate r).run catalog = .ok true ∧
      p.tagChanges r = ([], []) := by
  have hpatch : (p.patch r).run catalog = .ok [] := by
    unfold Parameters.patch
    rw [Dialogue.bind_eq, Dialogue.run_bind, h]
    rfl
  have hsettled : (p.isUpToDate r).run catalog = .ok true := by
    unfold Parameters.isUpToDate
    rw [Dialogue.bind_eq, Dialogue.run_bind, h]
    rfl
  obtain ⟨upToDate, hrun, hiff⟩ := isUpToDate_iff h hpatch
  have htrue : upToDate = true := Except.ok.inj (hrun.symm.trans hsettled)
  exact ⟨hpatch, hsettled, (hiff.mp htrue).2⟩

end ResourceInstance

/-! ## Topics -/

namespace Topic

variable {p : Parameters} {t : Remote}

/-- A member that an update can have. -/
inductive Member where
  | partitions
  | configs

/-- The name of a member. -/
def Member.wireName : Member → String
  | .partitions => "new_total_partition_count"
  | .configs => "configs"

/-- An update has a member where some field that the member speaks of disagrees. -/
def Member.Due (p : Parameters) (t : Remote) : Member → Prop
  | .partitions => .partitions ∈ p.changedFields t
  | .configs => ∃ k, .config k ∈ p.changedFields t

/-- The value that an update is to have for a member: the number of partitions that is declared, and
the entries that disagree, in the order in which they are listed. -/
def Parameters.Wants (p : Parameters) (t : Remote) : Member → Json → Prop
  | .partitions, value => ∃ n, p.partitions = some n ∧ value = Json.ofInt n
  | .configs, value => ∃ entries, value = .array entries ∧
    List.Forall₂ p.Lists (p.changedEntries t) entries

theorem due_configs_iff : Member.configs.Due p t ↔ p.changedEntries t ≠ [] := by
  unfold Member.Due
  rw [Ne, List.eq_nil_iff_forall_not_mem, Classical.not_forall]
  simp only [Classical.not_not, mem_changedEntries]

theorem sorted_patch : Table.Sorted (p.patch t) := by
  unfold Parameters.patch Table.Sorted
  refine List.pairwise_append.mpr ⟨?_, ?_, ?_⟩
  · split
    · exact .nil
    · exact List.pairwise_singleton _ _
  · split
    · cases p.partitions with
      | none => exact .nil
      | some n => exact List.pairwise_singleton _ _
    · exact .nil
  · intro a ha b hb
    split at ha
    · cases ha
    · split at hb
      · cases hp : p.partitions with
        | none => simp [hp] at hb
        | some n =>
          rw [hp] at hb
          rw [List.mem_singleton.mp ha, List.mem_singleton.mp hb]
          show "configs" < "new_total_partition_count"
          decide
      · cases hb

theorem updateOf_patch : UpdateOf Member.wireName (Member.Due p t) (p.Wants t) (p.patch t) := by
  refine ⟨sorted_patch, ?_, ?_⟩
  · intro m hm
    cases m with
    | partitions =>
      have hget := (get?_patch_total (p := p) (t := t)).trans (if_pos hm)
      cases hp : p.partitions with
      | none =>
        refine absurd hm fun hm => (mem_changedFields .partitions).mp hm fun n hn => ?_
        exact absurd (hp.symm.trans hn) nofun
      | some n =>
        rw [hp] at hget
        exact ⟨Json.ofInt n, hget, n, hp, rfl⟩
    | configs =>
      have hget := (get?_patch_configs (p := p) (t := t)).trans (if_neg (due_configs_iff.mp hm))
      exact ⟨_, hget, _, rfl, entries_forall₂⟩
  · intro key hkey
    obtain ⟨value, hvalue⟩ := Table.exists_of_mem_keys hkey
    rcases keys_patch hkey with rfl | rfl
    · refine ⟨.configs, due_configs_iff.mpr fun hnone => ?_, rfl⟩
      rw [get?_patch_configs, if_pos hnone] at hvalue
      cases hvalue
    · refine ⟨.partitions, ?_, rfl⟩
      show .partitions ∈ p.changedFields t
      by_contra hnot
      rw [get?_patch_total, if_neg hnot] at hvalue
      cases hvalue

theorem isUpToDate_iff {name : String} :
    p.isUpToDate name t = true ↔ t.name = name ∧ p.patch t = [] := by
  unfold Parameters.isUpToDate
  rw [Bool.and_eq_true, beq_iff_eq, updateOf_patch.eq_nil_iff, List.isEmpty_iff,
    List.eq_nil_iff_forall_not_mem]
  refine and_congr_right fun _ => ?_
  constructor
  · intro hnone m
    cases m with
    | partitions => exact hnone .partitions
    | configs => exact fun ⟨k, hk⟩ => hnone (.config k) hk
  · intro hnone f
    cases f with
    | partitions => exact hnone .partitions
    | config k => exact fun hk => hnone .configs ⟨k, hk⟩

theorem settled_of_changedFields_nil (h : p.changedFields t = []) :
    p.patch t = [] ∧ ∀ name, p.isUpToDate name t = true ↔ t.name = name := by
  have hsettled : p.isUpToDate t.name t = true := by
    unfold Parameters.isUpToDate
    rw [h, BEq.rfl]
    rfl
  have hpatch : p.patch t = [] := (isUpToDate_iff.mp hsettled).2
  refine ⟨hpatch, fun name => ?_⟩
  rw [isUpToDate_iff]
  exact and_iff_left hpatch

end Topic

/-! ## The five kinds -/

/-- **Updates say what disagrees.** For a declaration of each kind and what there is in the cloud,
an update has a member for each field that disagrees, with the value that is declared, and no other
one: a text as it is given, a plan by its id, and an object by its canonical id, or as an empty
object where the identity is unset, empty, or a URL of nothing but slashes. Of a service instance
this excepts the tags, and of a topic the update has the total of partitions, and the list of the
entries that disagree.

So nothing is to be updated exactly where the update is empty, and where no tags of a service
instance are to be changed, and where a topic has the name meant. -/
theorem updates_exact :
    (∀ (p : Vpc.Parameters) (v : Vpc.Remote),
      UpdateOf Vpc.Field.wireName (· ∈ p.changedFields v) p.Wants (p.patch v) ∧
      (p.isUpToDate v = true ↔ p.patch v = [])) ∧
    (∀ (p : Subnet.Parameters) (s : Subnet.Remote),
      UpdateOf Subnet.Field.wireName (· ∈ p.changedFields s) p.Wants (p.patch s) ∧
      (p.isUpToDate s = true ↔ p.patch s = [])) ∧
    (∀ (p : ResourceKey.Parameters) (k : ResourceKey.Remote),
      UpdateOf ResourceKey.Field.wireName (· ∈ p.changedFields k) p.Wants (p.patch k) ∧
      (p.isUpToDate k = true ↔ p.patch k = [])) ∧
    (∀ (p : ResourceInstance.Parameters) (r : ResourceInstance.Remote)
      (catalog : Cloud.Catalog.Answers) (fields : List ResourceInstance.Field)
      (patch : Cloud.Patch), (p.changedFields r).run catalog = .ok fields →
      (p.patch r).run catalog = .ok patch →
      UpdateOf ResourceInstance.Field.wireName (fun f => f ∈ fields ∧ f ≠ .tags)
        (p.Wants catalog) patch ∧
      ∃ upToDate, (p.isUpToDate r).run catalog = .ok upToDate ∧
        (upToDate = true ↔ patch = [] ∧ p.tagChanges r = ([], []))) ∧
    (∀ (p : Topic.Parameters) (name : String) (t : Topic.Remote),
      UpdateOf Topic.Member.wireName (Topic.Member.Due p t) (p.Wants t) (p.patch t) ∧
      (p.isUpToDate name t = true ↔ t.name = name ∧ p.patch t = [])) := by
  refine ⟨fun p v => ⟨Vpc.updateOf_patch, Vpc.isUpToDate_iff⟩,
    fun p s => ⟨Subnet.updateOf_patch, Subnet.isUpToDate_iff⟩,
    fun p k => ⟨ResourceKey.updateOf_patch, ResourceKey.isUpToDate_iff⟩, ?_,
    fun p name t => ⟨Topic.updateOf_patch, Topic.isUpToDate_iff⟩⟩
  intro p r catalog fields patch hfields hpatch
  exact ⟨ResourceInstance.updateOf_patch hfields hpatch,
    ResourceInstance.isUpToDate_iff hfields hpatch⟩

namespace ResourceInstance

/-- A declared cache: it is on another plan than there is, and it has no tags. -/
def declaredCache : Parameters :=
  ⟨"cache", "us-south", "", "redis", "standard", some [], none, none, none⟩

/-- The cache in the cloud, with a tag. -/
def smallCache : Remote :=
  ⟨"i-1", "", "crn-1", "", "cache", "", "", "", "plan-1", "", "us-south", .active, false, false,
    none, none, none, none, ["old"]⟩

/-- A catalog of two plans. -/
def twoPlans : Cloud.Catalog.Answers
  | .planId _ plan => .ok (if plan = "standard" then "plan-2" else "plan-1")
  | .planName _ id => .ok (if id = "plan-2" then "standard" else "lite")
  | _ => .error .http

/-- The plan and the tags disagree; the update has the plan, by its id. -/
theorem declaredCache_update :
    (declaredCache.changedFields smallCache).run twoPlans = .ok [.plan, .tags] ∧
      (declaredCache.patch smallCache).run twoPlans =
        .ok [("resource_plan_id", .string "plan-2")] ∧
      (declaredCache.isUpToDate smallCache).run twoPlans = .ok false ∧
      ∃ v, Table.get? "resource_plan_id" [("resource_plan_id", .string "plan-2")] = some v ∧
        declaredCache.Wants twoPlans .plan v := by
  have hfields : (declaredCache.changedFields smallCache).run twoPlans = .ok [.plan, .tags] := by
    decide +kernel
  have hpatch : (declaredCache.patch smallCache).run twoPlans =
      .ok [("resource_plan_id", .string "plan-2")] := by decide +kernel
  obtain ⟨hexact, upToDate, hrun, hiff⟩ :=
    updates_exact.2.2.2.1 declaredCache smallCache twoPlans _ _ hfields hpatch
  have hfalse : upToDate = false := by
    rw [← Bool.not_eq_true, hiff]
    rintro ⟨⟨⟩, -⟩
  rw [hfalse] at hrun
  exact ⟨hfields, hpatch, hrun, hexact.said .plan ⟨by decide, by decide⟩⟩

end ResourceInstance

namespace Subnet

/-- A declared subnet whose network ACL is a URL of nothing but slashes. -/
def slashedSubnet : Parameters :=
  ⟨⟨some "apps", none, some ⟨.href, "/"⟩, none, none, none, none, none, none⟩,
    .byTotalCount 256 "us-south-1"⟩

/-- The subnet in the cloud, with a network ACL. -/
def guardedSubnet : Remote :=
  ⟨"s-1", "", "", "apps", "ipv4", "10.0.0.0/24", 251, 256, .available, none,
    some ⟨"acl-1", "", "", "first"⟩, none, none, none, ⟨"v-1", "", "", "net"⟩, ⟨"us-south-1", ""⟩⟩

/-- The network ACL is declared by an identity that is set. It disagrees, and it is sent as an empty
object, and not by its canonical id. -/
theorem slashed_network_acl :
    slashedSubnet.common.networkAcl = some ⟨.href, "/"⟩ ∧
      Identity.isEmpty ⟨.href, "/"⟩ = false ∧
      slashedSubnet.changedFields guardedSubnet = [.networkAcl] ∧
      Table.get? "network_acl" (slashedSubnet.patch guardedSubnet) = some (.object []) ∧
      Table.get? "network_acl" (slashedSubnet.patch guardedSubnet) ≠
        some (.object [("id", .string (Identity.canonicalId ⟨.href, "/"⟩))]) := by
  decide +kernel

end Subnet

end ResourceOperator
