import ResourceOperator.Proofs.Dialogue
import ResourceOperator.ResourceInstance.Mapping
import ResourceOperator.ResourceKey.Mapping
import ResourceOperator.Subnet.Mapping
import ResourceOperator.Topic.Mapping
import ResourceOperator.Vpc.Mapping

/-!
# Desired state filled in twice

What has been filled in from an object that is observed is set, and what is still unset has nothing
to be filled in with. So filling it in again from the same object changes nothing, and is not marked
as a change. An identity is filled in its own form, which reads back as set; the names of a service
instance are looked up, and a second lookup is answered as the first one was.

Results:
* `Filled.ofText_again` and one lemma for each way to fill a field.
* `Vpc.Parameters.lateInitialize_again` and the same for the other kinds.
-/

namespace ResourceOperator

namespace Filled

variable {α : Type}

@[simp] theorem ofOption_again (desired observed : Option α) :
    ofOption (ofOption desired observed).value observed =
      keep (ofOption desired observed).value := by
  cases desired <;> cases observed <;> rfl

@[simp] theorem ofText_again (desired : Option String) (observed : String) :
    ofText (ofText desired observed).value observed = keep (ofText desired observed).value := by
  by_cases h : ((desired.getD "").isEmpty && !observed.isEmpty) = true
  · have hfilled : ofText desired observed = ⟨some observed, true⟩ := if_pos h
    have hset : observed.isEmpty = false := by simpa using (Bool.and_eq_true_iff.mp h).2
    rw [hfilled]
    exact if_neg (by simp [hset])
  · have hkept : ofText desired observed = keep desired := if_neg h
    rw [hkept]
    exact hkept

@[simp] theorem ofRequired_again (desired observed : String) :
    ofRequired (ofRequired desired observed).value observed =
      keep (ofRequired desired observed).value := by
  by_cases h : (desired.isEmpty && !observed.isEmpty) = true
  · have hfilled : ofRequired desired observed = ⟨observed, true⟩ := if_pos h
    have hset : observed.isEmpty = false := by simpa using (Bool.and_eq_true_iff.mp h).2
    rw [hfilled]
    exact if_neg (by simp [hset])
  · have hkept : ofRequired desired observed = keep desired := if_neg h
    rw [hkept]
    exact hkept

/-- An identity that is set is kept. -/
theorem ofIdentity_of_set {i : Identity} (h : i.isEmpty = false)
    (observed : Option Cloud.ObjectReference) : ofIdentity (some i) observed = keep (some i) := by
  cases observed with
  | none => rfl
  | some r => exact if_neg (by simp [h])

@[simp] theorem ofIdentity_again (desired : Option Identity)
    (observed : Option Cloud.ObjectReference) :
    ofIdentity (ofIdentity desired observed).value observed =
      keep (ofIdentity desired observed).value := by
  cases observed with
  | none => rfl
  | some r =>
    cases desired with
    | none =>
      by_cases h : r.id.isEmpty = true
      · have hkept : ofIdentity none (some r) = keep none := if_pos h
        rw [hkept]
        exact hkept
      · have hfilled : ofIdentity none (some r) = ⟨some (.byId r.id), true⟩ := if_neg h
        rw [hfilled]
        exact ofIdentity_of_set (i := .byId r.id) (Bool.eq_false_iff.mpr h) (some r)
    | some i =>
      by_cases h : (i.isEmpty && !(r.part i.form).isEmpty) = true
      · have hfilled : ofIdentity (some i) (some r) = ⟨some (i.withValue (r.part i.form)), true⟩ :=
          if_pos h
        have hset : (i.withValue (r.part i.form)).isEmpty = false := by
          simpa [Identity.isEmpty, Identity.withValue] using (Bool.and_eq_true_iff.mp h).2
        rw [hfilled]
        exact ofIdentity_of_set hset (some r)
      · have hkept : ofIdentity (some i) (some r) = keep (some i) := if_neg h
        rw [hkept]
        exact hkept

end Filled

open Filled

/-! ## Networks, subnets and keys -/

theorem Vpc.Parameters.lateInitialize_again (p : Parameters) (v : Remote) :
    (p.lateInitialize v).value.lateInitialize v = keep (p.lateInitialize v).value := by
  simp [lateInitialize, keep]

namespace Subnet

theorem Common.lateInitialize_again (c : Common) (s : Remote) :
    (c.lateInitialize s).value.lateInitialize s = keep (c.lateInitialize s).value := by
  simp [lateInitialize, keep]

theorem Sizing.lateInitialize_again (sizing : Sizing) (s : Remote) :
    (sizing.lateInitialize s).value.lateInitialize s = keep (sizing.lateInitialize s).value := by
  cases sizing with
  | byTotalCount count zone =>
    by_cases h : count = 0 ∧ 0 < s.totalIpv4AddressCount
    · -- what the count is filled in with is not zero
      have hset : s.totalIpv4AddressCount ≠ 0 := by omega
      simp [lateInitialize, keep, h, hset]
    · simp [lateInitialize, keep, h]
  | byCidr block zone => simp [lateInitialize, keep]

theorem Parameters.lateInitialize_again (p : Parameters) (s : Remote) :
    (p.lateInitialize s).value.lateInitialize s = keep (p.lateInitialize s).value := by
  simp [lateInitialize, Common.lateInitialize_again, Sizing.lateInitialize_again, keep]

end Subnet

theorem ResourceKey.Parameters.lateInitialize_again (p : Parameters) (k : Remote) :
    (p.lateInitialize k).value.lateInitialize k = keep (p.lateInitialize k).value := by
  simp [lateInitialize, keep]

/-! ## Topics -/

namespace Topic

/-- A configuration that has the entries of another one is kept. -/
theorem fillConfigs_of_filled {c observed : Configs}
    (h : ∀ k, ofOption (c.get k) (observed.get k) = keep (c.get k)) :
    fillConfigs (some c) observed = keep (some c) := by
  have hvalue : c.orElse observed = c := by
    refine Configs.ext_get fun k => ?_
    rw [Configs.orElse, Configs.get_ofView]
    have hk := congrArg Filled.value (h k)
    cases hc : c.get k with
    | some value => rfl
    | none =>
      rw [hc] at hk
      cases ho : observed.get k with
      | none => rfl
      | some value =>
        rw [ho] at hk
        cases hk
  have hchanged : (ConfigKey.all.any fun k => (ofOption (c.get k) (observed.get k)).changed) =
      false := by
    simp [h, keep]
  rw [fillConfigs, hvalue, hchanged]
  rfl

theorem fillConfigs_again (desired : Option Configs) (observed : Configs) :
    fillConfigs (fillConfigs desired observed).value observed =
      keep (fillConfigs desired observed).value := by
  cases desired with
  | some c =>
    refine fillConfigs_of_filled fun k => ?_
    rw [Configs.orElse, Configs.get_ofView]
    cases c.get k <;> cases observed.get k <;> rfl
  | none =>
    by_cases h : observed = .empty
    · have hkept : fillConfigs none observed = keep none := if_pos h
      rw [hkept]
      exact hkept
    · have hfilled : fillConfigs none observed = ⟨some observed, true⟩ := if_neg h
      rw [hfilled]
      refine fillConfigs_of_filled fun k => ?_
      cases observed.get k <;> rfl

theorem Parameters.lateInitialize_again (p : Parameters) (t : Remote) :
    (p.lateInitialize t).value.lateInitialize t = keep (p.lateInitialize t).value := by
  simp [lateInitialize, fillConfigs_again, keep]

end Topic

/-! ## Service instances -/

namespace ResourceInstance

variable {answers : (q : Cloud.CatalogCall) → Cloud.Catalog.Answer q}

/-- A name is looked up where it is unset. -/
def looked (name : String)
    (lookup : Dialogue Cloud.Catalog (Except EngineError String)) :
    Dialogue Cloud.Catalog (Except EngineError String) :=
  if name.isEmpty then lookup else pure (.ok "")

theorem run_looked {α : Type} (name : String)
    (lookup : Dialogue Cloud.Catalog (Except EngineError String))
    (f : Except EngineError String → Dialogue Cloud.Catalog α) :
    (if name.isEmpty = true then lookup >>= f else pure (.ok "") >>= f).run answers =
      (f ((looked name lookup).run answers)).run answers := by
  rw [looked]
  split
  · exact Dialogue.run_bind answers lookup f
  · rfl

/-- A name that has been looked up is found again, and it is set, or there is nothing to set it
to. -/
theorem looked_again {name found : String}
    {lookup : Dialogue Cloud.Catalog (Except EngineError String)}
    (h : (looked name lookup).run answers = .ok found) :
    ∃ again, (looked (ofRequired name found).value lookup).run answers = .ok again ∧
      ofRequired (ofRequired name found).value again = keep (ofRequired name found).value := by
  by_cases hfill : (name.isEmpty && !found.isEmpty) = true
  · -- what was found is set, and not looked up again
    have hfilled : ofRequired name found = ⟨found, true⟩ := if_pos hfill
    have hset : ¬ found.isEmpty = true := by simpa using (Bool.and_eq_true_iff.mp hfill).2
    have hdone : looked found lookup = pure (.ok "") := if_neg hset
    rw [hfilled]
    refine ⟨"", ?_, if_neg (by simp)⟩
    rw [hdone]
    rfl
  · have hkept : ofRequired name found = keep name := if_neg hfill
    rw [hkept]
    exact ⟨found, h, hkept⟩

/-- The desired state with the names that were found. -/
def Parameters.named (p : Parameters) (r : Remote) (group plan : String) : Parameters :=
  { p with
    target := (ofRequired p.target r.regionId).value
    resourceGroupName := (ofRequired p.resourceGroupName group).value
    resourcePlanName := (ofRequired p.resourcePlanName plan).value }

/-- A desired state is filled in where both names were found. -/
theorem Parameters.run_lateInitialize {p filled : Parameters} {r : Remote} {changed : Bool} :
    (p.lateInitialize r).run answers = (.ok changed, filled) ↔ ∃ group plan,
      (looked p.resourceGroupName (groupName r.resourceGroupId)).run answers = .ok group ∧
      (looked p.resourcePlanName (planName p.serviceName r.resourcePlanId)).run answers = .ok plan ∧
      ((ofRequired p.target r.regionId).changed || (ofRequired p.resourceGroupName group).changed ||
        (ofRequired p.resourcePlanName plan).changed ||
        ((p.named r group plan).fillReported r).changed) = changed ∧
      ((p.named r group plan).fillReported r).value = filled := by
  rw [lateInitialize]
  dsimp only
  rw [run_looked]
  cases hgroup : (looked p.resourceGroupName (groupName r.resourceGroupId)).run answers with
  | error e => simp [Dialogue.run]
  | ok group =>
    dsimp only
    rw [run_looked]
    cases hplan :
      (looked p.resourcePlanName (planName p.serviceName r.resourcePlanId)).run answers with
    | error e => simp [Dialogue.run]
    | ok plan => simp [Dialogue.run, named]

theorem Parameters.fillReported_again (p : Parameters) (r : Remote) :
    (p.fillReported r).value.fillReported r = keep (p.fillReported r).value := by
  simp [fillReported, keep]

/-- A desired state that has been filled in is filled in again with the same answers, and nothing
changes. -/
theorem Parameters.lateInitialize_again {p filled : Parameters} {r : Remote} {changed : Bool}
    (h : (p.lateInitialize r).run answers = (.ok changed, filled)) :
    (filled.lateInitialize r).run answers = (.ok false, filled) := by
  obtain ⟨group, plan, hgroup, hplan, -, rfl⟩ := run_lateInitialize.mp h
  obtain ⟨group', hgroup', hgroup_kept⟩ := looked_again hgroup
  obtain ⟨plan', hplan', hplan_kept⟩ := looked_again hplan
  have htarget_kept := ofRequired_again p.target r.regionId
  have hnamed : ((p.named r group plan).fillReported r).value.named r group' plan' =
      ((p.named r group plan).fillReported r).value := by
    simp only [named, fillReported, htarget_kept, hgroup_kept, hplan_kept, keep]
  refine run_lateInitialize.mpr ⟨group', plan', hgroup', hplan', ?_, ?_⟩
  · rw [hnamed, fillReported_again]
    simp [fillReported, named, hgroup_kept, hplan_kept, keep]
  · rw [hnamed, fillReported_again]
    rfl

end ResourceInstance

end ResourceOperator
