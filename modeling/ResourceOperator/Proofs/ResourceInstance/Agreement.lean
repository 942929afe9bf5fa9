import Mathlib.Data.List.Sort
import Mathlib.Data.String.Basic
import ResourceOperator.Proofs.Json.Update
import ResourceOperator.ResourceInstance.Mapping

/-!
# Where a declaration agrees with an instance

An instance is updated where it disagrees with its declaration: by an update of some fields, and by
tags that are attached and detached. A field is updated exactly where it disagrees, and what the
update says about it is what the declaration has.

The catalog is a function here, so that the dialogues with it have one outcome each.

Results:
* `mem_changedFieldsWith`: the fields that are updated are those that disagree.
* `get?_patchFor`: what an update says about a field.
* `patchFor_eq_nil_iff`: when an update says nothing.
* `run_patch`: the update that is sent.
* `tagChanges_eq_nil_iff`, `tagChanges_attached`, `tagChanges_detached`: when no tags are to be
  changed, and how it comes to that.
-/

namespace ResourceOperator

/-! ## Sets of text -/

namespace TextSet

variable {a a' b : List String}

theorem diff_eq_nil_iff : diff a b = [] ↔ ∀ x ∈ a, x ∈ b := by
  simp [diff]

theorem Sorted.diff (h : Sorted a) (b : List String) : Sorted (diff a b) :=
  h.sublist List.filter_sublist

/-- Two sets of the same texts are equal. -/
theorem Sorted.ext (h : Sorted a) (h' : Sorted a') (hmem : ∀ x, x ∈ a ↔ x ∈ a') : a = a' :=
  List.Pairwise.eq_of_mem_iff h h' hmem

end TextSet

/-- Answers to every question to the catalog. -/
abbrev Cloud.Catalog.Answers : Type :=
  (q : Catalog.Question) → Catalog.Answer q

namespace ResourceInstance

open Cloud TextSet

variable {p : Parameters} {s : Remote} {plan planId : String} {fields : List Field}

/-! ## Fields that agree -/

/-- A declaration agrees in a field with an instance whose plan has this name. Where it says nothing
about the field it agrees with anything; parameters may have members that are not declared. -/
def Field.Agrees (p : Parameters) (s : Remote) (plan : String) : Field → Prop
  | .name => p.name ≠ "" → s.name = p.name
  | .plan => p.resourcePlanName ≠ "" → plan = p.resourcePlanName
  | .parameters => ∀ v, p.parameters = some v → contained v s.parameters = true
  | .allowCleanup => ∀ b, p.allowCleanup = some b → s.allowCleanup = b
  | .tags => ∀ tags, p.tags = some tags → tagSet tags = tagSet s.tags

theorem unsetOrEqual_some {desired actual : String} :
    unsetOrEqual (some desired) (some actual) = true ↔ (desired ≠ "" → actual = desired) := by
  rw [unsetOrEqual, Bool.or_eq_true, String.isEmpty_iff, beq_iff_eq, Option.some_inj]
  exact Decidable.or_iff_not_imp_left

/-- The fields that are updated are those that disagree. -/
theorem mem_changedFieldsWith (f : Field) :
    f ∈ p.changedFieldsWith s plan ↔ ¬ f.Agrees p s plan := by
  have hname : unsetOrEqual (some p.name) (some s.name) = true ↔ Field.name.Agrees p s plan :=
    unsetOrEqual_some
  have hplan : unsetOrEqual (some p.resourcePlanName) (some plan) = true ↔
      Field.plan.Agrees p s plan := unsetOrEqual_some
  have hcleanup : (p.allowCleanup.isSome && p.allowCleanup != some s.allowCleanup) = true ↔
      ¬ Field.allowCleanup.Agrees p s plan := by
    rw [Field.Agrees]
    cases p.allowCleanup with
    | none => simp
    | some b => simp [eq_comm (a := b)]
  rw [Parameters.changedFieldsWith]
  cases f with
  | name => cases p.parameters <;> cases p.tags <;> simp [hname]
  | plan => cases p.parameters <;> cases p.tags <;> simp [hplan]
  | parameters => rw [Field.Agrees]; cases p.parameters <;> cases p.tags <;> simp
  | allowCleanup => cases p.parameters <;> cases p.tags <;> simp [hcleanup]
  | tags => rw [Field.Agrees]; cases p.parameters <;> cases p.tags <;> simp

theorem contained_object {members found : List (String × Json)}
    (h : ∀ e ∈ members, Table.get? e.1 found = some e.2) :
    contained (.object members) (some (.object found)) = true := by
  rw [contained, List.all_eq_true]
  intro e he
  rw [h e he]
  exact Json.same_refl e.2

/-- Parameters that have each member once are contained in themselves. -/
theorem contained_self {v : Json}
    (h : ∀ members, v = .object members → (Table.keys members).Nodup) :
    contained v (some v) = true := by
  cases v with
  | object members => exact contained_object fun e he => Table.get?_of_mem (h members rfl) he
  | _ => exact Json.same_refl _

/-- Reported parameters have each member once, as those of every document that is read. -/
def Remote.Distinct (r : Remote) : Prop :=
  ∀ members, r.parameters = some (.object members) → (Table.keys members).Nodup

/-- An instance has the parameters that it reports. -/
theorem Remote.Distinct.contained {r : Remote} (h : r.Distinct) {v : Json}
    (hv : r.parameters = some v) : contained v r.parameters = true := by
  rw [hv]
  exact contained_self fun members he => h members (hv.trans (congrArg some he))

theorem nodup_changedFieldsWith : (p.changedFieldsWith s plan).Nodup := by
  have hite : ∀ (c : Prop) [Decidable c] (f : Field), (if c then [] else [f]).Sublist [f] := by
    intro c _ f
    split
    · exact List.nil_sublist _
    · exact List.Sublist.refl _
  -- what disagrees is listed in the order of the fields
  suffices h : (p.changedFieldsWith s plan).Sublist
      ([.name] ++ [.plan] ++ [.parameters] ++ [.allowCleanup] ++ [.tags]) from h.nodup (by decide)
  refine .append (.append (.append (.append ?_ ?_) ?_) ?_) ?_
  · exact hite _ .name
  · exact hite _ .plan
  · cases p.parameters with
    | none => exact List.nil_sublist _
    | some v => exact hite _ .parameters
  · split
    · exact List.Sublist.refl _
    · exact List.nil_sublist _
  · cases p.tags with
    | none => exact List.nil_sublist _
    | some tags => exact hite _ .tags

/-! ## What an update says -/

/-- The name of a field in an update. Tags are not updated so. -/
def Field.wireName : Field → String
  | .name => "name"
  | .plan => "resource_plan_id"
  | .parameters => "parameters"
  | .allowCleanup => "allow_cleanup"
  | .tags => "tags"

theorem wireName_injective : Function.Injective Field.wireName := by
  intro f g h
  cases f <;> cases g <;> first | rfl | exact absurd h (by decide)

/-- What there is to say about a field, given the id of the desired plan. -/
def Parameters.said (p : Parameters) (planId : String) : Field → Option Json
  | .name => some (.string p.name)
  | .plan => some (.string planId)
  | .parameters => p.parameters
  | .allowCleanup => p.allowCleanup.map .bool
  | .tags => none

theorem patchWith_eq :
    p.patchWith fields planId =
      Table.ofList (Json.fieldMembers Field.wireName (p.said planId) fields) := by
  refine congrArg Table.ofList (congrArg (List.flatMap · fields) (funext fun f => ?_))
  cases f <;> rfl

/-- The update of an instance whose plan has this name, where the desired plan has this id. -/
def Parameters.patchFor (p : Parameters) (s : Remote) (plan planId : String) : Patch :=
  p.patchWith (p.changedFieldsWith s plan) planId

/-- What the update says about a field. -/
theorem get?_patchFor (f : Field) :
    Table.get? f.wireName (p.patchFor s plan planId) =
      if f ∈ p.changedFieldsWith s plan then p.said planId f else none := by
  unfold Parameters.patchFor
  rw [patchWith_eq]
  exact Json.get?_update wireName_injective nodup_changedFieldsWith f

/-- There is something to say about a field that disagrees, unless it is the tags. -/
theorem said_ne_none {f : Field} (hf : f ∈ p.changedFieldsWith s plan) (htags : f ≠ .tags) :
    p.said planId f ≠ none := by
  intro h
  rw [mem_changedFieldsWith] at hf
  cases f with
  | name => cases h
  | plan => cases h
  | parameters => exact hf fun v hv => nomatch h.symm.trans hv
  | allowCleanup => exact hf fun b hb => nomatch (Option.map_eq_none_iff.mp h).symm.trans hb
  | tags => exact htags rfl

/-- The update says nothing exactly where all agrees but the tags. -/
theorem patchFor_eq_nil_iff : p.patchFor s plan planId = [] ↔
    ∀ f : Field, f ≠ .tags → f.Agrees p s plan := by
  constructor
  · intro h f htags
    by_contra hf
    have hmem : f ∈ p.changedFieldsWith s plan := (mem_changedFieldsWith f).mpr hf
    have hget : Table.get? f.wireName (p.patchFor s plan planId) = p.said planId f := by
      rw [get?_patchFor, if_pos hmem]
    rw [h] at hget
    exact said_ne_none hmem htags hget.symm
  · intro h
    have htags : ∀ f ∈ p.changedFieldsWith s plan, f = .tags := by
      intro f hf
      by_contra hne
      exact (mem_changedFieldsWith f).mp hf (h f hne)
    have hnil :
        Json.fieldMembers Field.wireName (p.said planId) (p.changedFieldsWith s plan) = [] := by
      refine List.flatMap_eq_nil_iff.mpr fun f hf => ?_
      rw [htags f hf]
      rfl
    unfold Parameters.patchFor
    rw [patchWith_eq, hnil]
    rfl

/-- The id of the plan is said only where the plan disagrees. -/
theorem patchWith_of_not_mem (hf : .plan ∉ fields) (planId' : String) :
    p.patchWith fields planId = p.patchWith fields planId' := by
  refine congrArg Table.ofList (List.flatMap_congr fun f hmem => ?_)
  cases f with
  | plan => exact absurd hmem hf
  | _ => rfl

/-! ## What the catalog answers -/

section Catalog

variable {catalog : Catalog.Answers}

/-- The catalog has a name for the plan of the instance, and an id for the one that is declared. -/
structure Lists (catalog : Catalog.Answers) (p : Parameters) (s : Remote)
    (plan planId : String) : Prop where
  named : (planName p.serviceName s.resourcePlanId).run catalog = .ok plan
  found : p.resourcePlanName ≠ "" →
    catalog (.planId p.serviceName p.resourcePlanName) = .ok planId

theorem run_changedFields (h : (planName p.serviceName s.resourcePlanId).run catalog = .ok plan) :
    (p.changedFields s).run catalog = .ok (p.changedFieldsWith s plan) := by
  rw [Parameters.changedFields, Dialogue.bind_eq, Dialogue.run_bind, h]
  rfl

/-- The update that is sent. -/
theorem run_patch (h : Lists catalog p s plan planId) :
    (p.patch s).run catalog = .ok (p.patchFor s plan planId) := by
  rw [Parameters.patch, Dialogue.bind_eq, Dialogue.run_bind, run_changedFields h.named]
  dsimp only
  split
  case isTrue hplan =>
    have hset : p.resourcePlanName ≠ "" := fun he =>
      (mem_changedFieldsWith .plan).mp (List.contains_iff_mem.mp hplan) fun hne => absurd he hne
    show (Except.mapError _ (catalog (.planId p.serviceName p.resourcePlanName))).map _ = _
    rw [h.found hset]
    rfl
  case isFalse hplan =>
    have hplan : .plan ∉ p.changedFieldsWith s plan := fun hf =>
      hplan (List.contains_iff_mem.mpr hf)
    exact congrArg Except.ok (patchWith_of_not_mem hplan planId)

end Catalog

/-! ## Tags -/

theorem mem_tagSet {tags : List String} {x : String} : x ∈ tagSet tags ↔ x ∈ tags ∧ x ≠ "" := by
  simp [tagSet, mem_ofList]

theorem sorted_tagSet (tags : List String) : Sorted (tagSet tags) :=
  sorted_ofList _

/-- No tags are to be changed exactly where they agree. -/
theorem tagChanges_eq_nil_iff : p.tagChanges s = ([], []) ↔ Field.tags.Agrees p s plan := by
  rw [Parameters.tagChanges, Field.Agrees]
  cases p.tags with
  | none => exact iff_of_true rfl nofun
  | some tags =>
    rw [Prod.mk.injEq, diff_eq_nil_iff, diff_eq_nil_iff]
    constructor
    · rintro ⟨hattached, hdetached⟩ _ ⟨⟩
      exact (sorted_tagSet tags).ext (sorted_tagSet s.tags) fun x => ⟨hattached x, hdetached x⟩
    · intro h
      rw [h tags rfl]
      exact ⟨fun _ => id, fun _ => id⟩

/-- Once tags are attached, none are to be attached, and those to be detached are the same. -/
theorem tagChanges_attached : p.tagChanges { s with tags := s.tags ++ (p.tagChanges s).1 } =
    ([], (p.tagChanges s).2) := by
  rw [Parameters.tagChanges, Parameters.tagChanges]
  cases p.tags with
  | none => rfl
  | some tags =>
    have hmem : ∀ x, x ∈ tagSet (s.tags ++ diff (tagSet tags) (tagSet s.tags)) ↔
        x ∈ tagSet s.tags ∨ x ∈ tagSet tags := by
      intro x
      simp only [mem_tagSet, mem_diff, List.mem_append]
      tauto
    refine Prod.ext (diff_eq_nil_iff.mpr fun x hx => (hmem x).mpr (.inr hx)) ?_
    refine ((sorted_tagSet _).diff _).ext ((sorted_tagSet _).diff _) fun x => ?_
    rw [mem_diff, mem_diff, hmem]
    tauto

/-- Once the others are detached, no tags are to be changed. -/
theorem tagChanges_detached (h : (p.tagChanges s).1 = []) :
    p.tagChanges { s with tags := s.tags.filter fun t => !(p.tagChanges s).2.contains t } =
      ([], []) := by
  rw [Parameters.tagChanges] at h ⊢
  cases hp : p.tags with
  | none => rfl
  | some tags =>
    rw [hp] at h
    rw [Parameters.tagChanges, hp]
    dsimp only at h ⊢
    rw [diff_eq_nil_iff] at h
    have hmem : ∀ x, x ∈ tagSet (s.tags.filter fun t =>
        !(diff (tagSet s.tags) (tagSet tags)).contains t) ↔ x ∈ tagSet tags := by
      intro x
      rw [mem_tagSet, List.mem_filter, Bool.not_eq_true', ← Bool.not_eq_true,
        List.contains_iff_mem, mem_diff]
      constructor
      · rintro ⟨⟨hx, hkept⟩, hne⟩
        exact Decidable.byContradiction fun hout => hkept ⟨mem_tagSet.mpr ⟨hx, hne⟩, hout⟩
      · intro hx
        obtain ⟨hs, hne⟩ := mem_tagSet.mp (h x hx)
        exact ⟨⟨hs, fun hd => hd.2 hx⟩, hne⟩
    refine Prod.ext (diff_eq_nil_iff.mpr fun x hx => (hmem x).mpr hx) ?_
    exact diff_eq_nil_iff.mpr fun x hx => (hmem x).mp hx

end ResourceInstance

end ResourceOperator
