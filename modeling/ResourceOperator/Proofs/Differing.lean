import ResourceOperator.Proofs.Filled
import ResourceOperator.Proofs.Unset
import ResourceOperator.Proofs.Updating

/-!
# Only what is given can differ

Late initialization and the comparison are two readings of an object, and each has its own way with
values: a number of partitions that is not positive is not taken, empty parameters are not, the name
of a plan is looked up, flags have a default. They fit together. What late initialization takes over
agrees when it is compared, and a field that is still open agrees with anything, so that a field can
only disagree by a value that was given before.

This is stated field by field: `given` is the value that a declaration has for a field, unless it
leaves the field open; `found` is what late initialization finds there; and `Has` says when an
object has a value. Three laws (`Adopts`) connect them, and what follows is the same for each kind.

Results:
* `Adopts.given_of_changed`, `Adopts.nothing_changed`: what follows from the laws.
* `Vpc.adopts`, and the same for keys, topics and service instances: the laws hold.
* `only_given_fields_differ`: this for the four kinds.
* `plannedCache_differs`: a service instance of which only the plan was given, and differs.
-/

namespace ResourceOperator

open Filled

/-! ## The laws -/

section Laws

variable {Field : Type} {Value : Field → Type} {before after found : (f : Field) → Option (Value f)}
  {has : (f : Field) → Value f → Prop} {changed : List Field}

/-- How late initialization and the comparison of a kind fit together, for the fields that can
change: what is given before and after, what is found in the object, which values the object has,
and which fields are listed as changed. -/
structure Adopts (before after found : (f : Field) → Option (Value f))
    (has : (f : Field) → Value f → Prop) (changed : List Field) : Prop where
  /-- An open field takes what is found. -/
  filled : ∀ f, after f = (before f).or (found f)
  /-- The object has what is found in it. -/
  adopted : ∀ f v, found f = some v → has f v
  /-- A field is changed unless the object has what is given for it. -/
  compared : ∀ f, f ∈ changed ↔ ¬ ∀ v, after f = some v → has f v

/-- Each of some fields was given, and has the same value still. -/
def OnlyGiven (before after : (f : Field) → Option (Value f)) (changed : List Field) : Prop :=
  ∀ f ∈ changed, ∃ v, before f = some v ∧ after f = some v

/-- What is changed was given. -/
theorem Adopts.given_of_changed (h : Adopts before after found has changed) :
    OnlyGiven before after changed := by
  intro f hf
  obtain ⟨v, hv⟩ := Classical.not_forall.mp ((h.compared f).mp hf)
  obtain ⟨hafter, hne⟩ := Classical.not_imp.mp hv
  have hor : (before f).or (found f) = some v := (h.filled f).symm.trans hafter
  rcases Option.or_eq_some_iff.mp hor with hbefore | ⟨-, hfound⟩
  · exact ⟨v, hbefore, hafter⟩
  · exact absurd (h.adopted f v hfound) hne

/-- Where nothing was given, nothing is changed. -/
theorem Adopts.nothing_changed (h : Adopts before after found has changed)
    (hopen : ∀ f, before f = none) : changed = [] := by
  refine List.eq_nil_iff_forall_not_mem.mpr fun f hf => ?_
  obtain ⟨v, hbefore, -⟩ := h.given_of_changed f hf
  exact absurd ((hopen f).symm.trans hbefore) nofun

end Laws

/-- A list of one field unless it agrees. -/
theorem mem_unless {Field : Type} {f : Field} {agrees : Prop} [Decidable agrees] :
    f ∈ (if agrees then [] else [f]) ↔ ¬ agrees := by
  by_cases h : agrees
  · rw [if_pos h]
    exact iff_of_false List.not_mem_nil (not_not_intro h)
  · rw [if_neg h]
    exact iff_of_true List.mem_cons_self h

/-! ## Networks -/

namespace Vpc

/-- The values of a field. -/
def Field.Value : Field → Type
  | .name => String

/-- The value that a declaration has for a field, if it has one. -/
def Parameters.given (p : Parameters) : (f : Field) → Option f.Value
  | .name => p.name.bind nonEmpty

/-- What late initialization finds for a field. -/
def Remote.found (v : Remote) : (f : Field) → Option f.Value
  | .name => nonEmpty v.name

/-- A network has a value in a field. -/
def Remote.Has (v : Remote) : (f : Field) → f.Value → Prop
  | .name, name => v.name = name

theorem mem_changedFields (p : Parameters) (v : Remote) (f : Field) :
    f ∈ p.changedFields v ↔ ¬ ∀ value, p.given f = some value → v.Has f value := by
  cases f with
  | name =>
    have hagrees : unsetOrEqual p.name v.parameters.name = true ↔
        ∀ name, p.name.bind nonEmpty = some name → v.name = name := by
      refine Subnet.unsetOrEqual_nonEmpty.trans ⟨?_, ?_⟩
      · intro h name hname
        obtain ⟨given, hgiven, hset⟩ := Option.bind_eq_some_iff.mp hname
        obtain ⟨rfl, hne⟩ := nonEmpty_eq_some_iff.mp hset
        exact h given hgiven hne
      · intro h given hgiven hne
        refine h given ?_
        rw [hgiven]
        exact nonEmpty_eq_some_iff.mpr ⟨rfl, hne⟩
    unfold Parameters.changedFields
    exact mem_unless.trans (not_congr hagrees)

theorem adopts (p : Parameters) (v : Remote) :
    Adopts p.given (p.lateInitialize v).value.given v.found v.Has
      ((p.lateInitialize v).value.changedFields v) where
  filled
    | .name => ((onlyFills v).fields p).name.bind_nonEmpty_eq_or
  adopted
    | .name, _, h => (nonEmpty_eq_some_iff.mp h).1
  compared := mem_changedFields _ v

end Vpc

/-! ## Resource keys -/

namespace ResourceKey

/-- The values of a field. -/
def Field.Value : Field → Type
  | .name => String

/-- The value that a declaration has for a field, if it has one. -/
def Parameters.given (p : Parameters) : (f : Field) → Option f.Value
  | .name => nonEmpty p.name

/-- What late initialization finds for a field: it never takes the name of a key. -/
def Remote.found (_ : Remote) : (f : Field) → Option f.Value
  | .name => none

/-- A key has a value in a field. -/
def Remote.Has (k : Remote) : (f : Field) → f.Value → Prop
  | .name, name => k.name = name

theorem mem_changedFields (p : Parameters) (k : Remote) (f : Field) :
    f ∈ p.changedFields k ↔ ¬ ∀ value, p.given f = some value → k.Has f value := by
  cases f with
  | name =>
    have hagrees : unsetOrEqual (some p.name) (some k.parameters.name) = true ↔
        ∀ name, nonEmpty p.name = some name → k.name = name :=
      ResourceInstance.unsetOrEqual_some.trans forall_nonEmpty_iff.symm
    unfold Parameters.changedFields
    exact mem_unless.trans (not_congr hagrees)

theorem adopts (p : Parameters) (k : Remote) :
    Adopts p.given (p.lateInitialize k).value.given k.found k.Has
      ((p.lateInitialize k).value.changedFields k) where
  filled
    | .name => Option.or_none.symm
  adopted
    | .name, _, h => absurd h nofun
  compared := mem_changedFields _ k

end ResourceKey

/-! ## Topics -/

namespace Topic

/-- The values of a field. -/
def Field.Value : Field → Type
  | .partitions => Int
  | .config _ => String

/-- The value that a declaration has for a field, if it has one. -/
def Parameters.given (p : Parameters) : (f : Field) → Option f.Value
  | .partitions => p.partitions
  | .config k => p.entry k

/-- What late initialization finds for a field: a number of partitions that is positive, and each
entry that is reported. -/
def Remote.found (t : Remote) : (f : Field) → Option f.Value
  | .partitions => t.partitions?
  | .config k => t.configs.get k

theorem adopts (p : Parameters) (t : Remote) :
    Adopts p.given (p.lateInitialize t).value.given t.found (fun f v => t.found f = some v)
      ((p.lateInitialize t).value.changedFields t) where
  filled
    | .partitions => ((onlyFills t).fields p).partitions.eq_or
    | .config k => (((onlyFills t).fields p).entry k).eq_or
  adopted _ _ h := h
  compared f := by
    rw [mem_changedFields]
    cases f <;> exact Iff.rfl

end Topic

/-! ## Service instances -/

namespace ResourceInstance

variable {p filled : Parameters} {r : Remote} {catalog : Cloud.Catalog.Answers} {plan : String}
  {changed : Bool}

/-- The values of a field. -/
def Field.Value : Field → Type
  | .name => String
  | .plan => String
  | .parameters => Json
  | .allowCleanup => Bool
  | .tags => List String

/-- The value that a declaration has for a field, if it has one. -/
def Parameters.given (p : Parameters) : (f : Field) → Option f.Value
  | .name => nonEmpty p.name
  | .plan => nonEmpty p.resourcePlanName
  | .parameters => p.parameters
  | .allowCleanup => p.allowCleanup
  | .tags => p.tags

/-- What late initialization finds for a field of an instance whose plan has this name. It never
takes the name, and no parameters or tags that say nothing. -/
def Remote.found (r : Remote) (plan : String) : (f : Field) → Option f.Value
  | .name => none
  | .plan => nonEmpty plan
  | .parameters => r.parameters.filter informative
  | .allowCleanup => some r.allowCleanup
  | .tags => if r.tags.isEmpty then none else some r.tags

/-- An instance whose plan has this name has a value in a field. -/
def Remote.Has (r : Remote) (plan : String) : (f : Field) → f.Value → Prop
  | .name, name => r.name = name
  | .plan, name => plan = name
  | .parameters, v => contained v r.parameters = true
  | .allowCleanup, allowed => r.allowCleanup = allowed
  | .tags, tags => tagSet tags = tagSet r.tags

theorem agrees_iff_has (f : Field) :
    f.Agrees p r plan ↔ ∀ value, p.given f = some value → r.Has plan f value := by
  cases f with
  | name => exact forall_nonEmpty_iff.symm
  | plan => exact forall_nonEmpty_iff.symm
  | parameters | allowCleanup | tags => exact Iff.rfl

/-- An instance that the cloud reports has each member of its parameters once. -/
theorem Remote.distinct_of_readable (h : Json.Readable Remote.decode r) : r.Distinct := by
  intro members hmembers
  obtain ⟨v, hcanonical, hread⟩ := Remote.readable_parameters h (.object members) hmembers
  have hv : v = .object members := by
    cases v with
    | null => exact absurd hread nofun
    | _ => exact Option.some.inj hread
  rw [hv] at hcanonical
  exact (Json.canonical_object.mp hcanonical).1.nodup_keys

/-- An instance has what is found in it. -/
theorem has_found (hr : r.Distinct) {f : Field} {value : f.Value}
    (h : r.found plan f = some value) : r.Has plan f value := by
  cases f with
  | name => exact absurd h nofun
  | plan => exact (nonEmpty_eq_some_iff.mp h).1
  | parameters =>
    obtain ⟨hreported, -⟩ := Option.filter_eq_some_iff.mp h
    exact hr.contained hreported
  | allowCleanup => exact Option.some.inj h
  | tags =>
    have htags : (if r.tags.isEmpty then none else some r.tags) = some value := h
    by_cases hempty : r.tags.isEmpty = true
    · rw [if_pos hempty] at htags
      exact absurd htags nofun
    · rw [if_neg hempty] at htags
      exact congrArg tagSet (Option.some.inj htags).symm

/-- What is given for a field of an instance whose plan has this name, once it is filled in. -/
theorem given_lateInitialize (h : (p.lateInitialize r).run catalog = (.ok changed, filled))
    (hplan : (planName p.serviceName r.resourcePlanId).run catalog = .ok plan) (f : Field) :
    filled.given f = (p.given f).or (r.found plan f) := by
  obtain ⟨group, found, -, hfound, -, rfl⟩ := Parameters.run_lateInitialize.mp h
  cases f with
  | name => exact Option.or_none.symm
  | plan =>
    have hfills := (ofRequired_fills p.resourcePlanName found).nonEmpty_eq_or
    by_cases hset : p.resourcePlanName = ""
    · -- the name that was looked up is the one that is compared
      have hsame : found = plan := by
        rw [looked, if_pos (String.isEmpty_iff.mpr hset)] at hfound
        exact Except.ok.inj (hfound.symm.trans hplan)
      exact hsame ▸ hfills
    · have hgiven : nonEmpty p.resourcePlanName = some p.resourcePlanName :=
        nonEmpty_eq_some_iff.mpr ⟨rfl, hset⟩
      have hkept : p.given .plan = some p.resourcePlanName := hgiven
      rw [hgiven, Option.some_or] at hfills
      rw [hkept]
      exact hfills
  | parameters => exact (ofOption_fills p.parameters (r.parameters.filter informative)).eq_or
  | allowCleanup => exact (ofOption_fills p.allowCleanup (some r.allowCleanup)).eq_or
  | tags => exact (ofOption_fills p.tags (if r.tags.isEmpty then none else some r.tags)).eq_or

theorem adopts (hr : r.Distinct) (h : (p.lateInitialize r).run catalog = (.ok changed, filled))
    (hplan : (planName p.serviceName r.resourcePlanId).run catalog = .ok plan) :
    Adopts p.given filled.given (r.found plan) (r.Has plan) (filled.changedFieldsWith r plan) where
  filled := given_lateInitialize h hplan
  adopted _ _ := has_found hr
  compared f := (mem_changedFieldsWith f).trans (not_congr (agrees_iff_has f))

/-- The service is given, and it is not filled in. -/
theorem serviceName_lateInitialize
    (h : (p.lateInitialize r).run catalog = (.ok changed, filled)) :
    filled.serviceName = p.serviceName := by
  obtain ⟨_, _, -, -, -, rfl⟩ := Parameters.run_lateInitialize.mp h
  rfl

/-- The fields that disagree after late initialization were given. -/
theorem onlyGiven_of_run (hr : r.Distinct)
    (h : (p.lateInitialize r).run catalog = (.ok changed, filled)) {fields : List Field}
    (hfields : (filled.changedFields r).run catalog = .ok fields) :
    OnlyGiven p.given filled.given fields := by
  unfold Parameters.changedFields at hfields
  rw [Dialogue.bind_eq, Dialogue.run_bind, serviceName_lateInitialize h] at hfields
  cases hplan : (planName p.serviceName r.resourcePlanId).run catalog with
  | error e =>
    rw [hplan] at hfields
    exact absurd hfields nofun
  | ok plan =>
    rw [hplan] at hfields
    cases hfields
    exact (adopts hr h hplan).given_of_changed

/-- Where no field was given, late initialization has looked up the plan, and none disagrees. -/
theorem nothing_changed_of_run (hr : r.Distinct)
    (h : (p.lateInitialize r).run catalog = (.ok changed, filled))
    (hopen : ∀ f, p.given f = none) : (filled.changedFields r).run catalog = .ok [] := by
  obtain ⟨_, plan, -, hplan, -, -⟩ := Parameters.run_lateInitialize.mp h
  have hunset : p.resourcePlanName.isEmpty = true :=
    String.isEmpty_iff.mpr (nonEmpty_eq_none_iff.mp (hopen .plan))
  rw [looked, if_pos hunset] at hplan
  rw [run_changedFields ((serviceName_lateInitialize h).symm ▸ hplan),
    (adopts hr h hplan).nothing_changed hopen]

end ResourceInstance

/-! ## The four kinds -/

/-- **Only what was given can differ.** After late initialization of a network, a key, a topic or a
service instance, each field that disagrees with the object had a value before, a name or a plan one
that is not empty, and it has the same value still. Where no field that is compared had a value,
nothing disagrees: the update is empty, no tags are to be changed, and there is nothing to update.
(The name of a topic is not among its fields, and it is compared beside them.)

For a service instance this holds of each late initialization that succeeds, and with a catalog that
answers a question the same each time. Its parameters have each member once, as those of every
instance that the cloud reports do (`ResourceInstance.Remote.distinct_of_readable`). -/
theorem only_given_fields_differ :
    (∀ (p : Vpc.Parameters) (v : Vpc.Remote),
      OnlyGiven p.given (p.lateInitialize v).value.given
        ((p.lateInitialize v).value.changedFields v) ∧
      ((∀ f, p.given f = none) → (p.lateInitialize v).value.isUpToDate v = true ∧
        (p.lateInitialize v).value.patch v = [])) ∧
    (∀ (p : ResourceKey.Parameters) (k : ResourceKey.Remote),
      OnlyGiven p.given (p.lateInitialize k).value.given
        ((p.lateInitialize k).value.changedFields k) ∧
      ((∀ f, p.given f = none) → (p.lateInitialize k).value.isUpToDate k = true ∧
        (p.lateInitialize k).value.patch k = [])) ∧
    (∀ (p : Topic.Parameters) (t : Topic.Remote),
      OnlyGiven p.given (p.lateInitialize t).value.given
        ((p.lateInitialize t).value.changedFields t) ∧
      ((∀ f, p.given f = none) → (p.lateInitialize t).value.patch t = [] ∧
        ∀ name, (p.lateInitialize t).value.isUpToDate name t = true ↔ t.name = name)) ∧
    (∀ (p filled : ResourceInstance.Parameters) (r : ResourceInstance.Remote)
      (catalog : Cloud.Catalog.Answers) (changed : Bool), r.Distinct →
      (p.lateInitialize r).run catalog = (.ok changed, filled) →
      (∀ fields, (filled.changedFields r).run catalog = .ok fields →
        OnlyGiven p.given filled.given fields) ∧
      ((∀ f, p.given f = none) → (filled.changedFields r).run catalog = .ok [] ∧
        (filled.patch r).run catalog = .ok [] ∧ (filled.isUpToDate r).run catalog = .ok true ∧
        filled.tagChanges r = ([], []))) := by
  refine ⟨?_, ?_, ?_, ?_⟩
  · intro p v
    have hadopts := Vpc.adopts p v
    refine ⟨hadopts.given_of_changed, fun hopen => ?_⟩
    exact Vpc.settled_of_changedFields_nil (hadopts.nothing_changed hopen)
  · intro p k
    have hadopts := ResourceKey.adopts p k
    refine ⟨hadopts.given_of_changed, fun hopen => ?_⟩
    exact ResourceKey.settled_of_changedFields_nil (hadopts.nothing_changed hopen)
  · intro p t
    have hadopts := Topic.adopts p t
    refine ⟨hadopts.given_of_changed, fun hopen => ?_⟩
    exact Topic.settled_of_changedFields_nil (hadopts.nothing_changed hopen)
  · intro p filled r catalog changed hr h
    refine ⟨fun fields => ResourceInstance.onlyGiven_of_run hr h, fun hopen => ?_⟩
    have hnone := ResourceInstance.nothing_changed_of_run hr h hopen
    exact ⟨hnone, ResourceInstance.settled_of_changedFields_nil hnone⟩

namespace ResourceInstance

/-- A cache in the cloud, on the small one of two plans. -/
def sizedCache : Remote :=
  { smallCache with parameters := some (.object [("disk", .ofNat 4), ("memory", .ofNat 1)]) }

/-- A declared cache of which a plan is given, or nothing that is compared. -/
def barelyDeclared (plan : String) : Parameters :=
  ⟨"", "us-south", "", "redis", plan, none, none, none, none⟩

/-- The declared cache, filled in. -/
def barelyFilled (plan : String) : Parameters :=
  ⟨"", "us-south", "", "redis", plan, some ["old"], some false, sizedCache.parameters, some false⟩

/-- Of a cache of which only the plan is given, only the plan differs; of a cache of which nothing
is given, nothing does. -/
theorem plannedCache_differs :
    ((barelyFilled "standard").changedFields sizedCache).run twoPlans = .ok [.plan] ∧
      (∃ v, (barelyDeclared "standard").given .plan = some v ∧
        (barelyFilled "standard").given .plan = some v) ∧
      ((barelyFilled "lite").patch sizedCache).run twoPlans = .ok [] ∧
      (barelyFilled "lite").tagChanges sizedCache = ([], []) := by
  have hdistinct : sizedCache.Distinct := by
    rintro _ ⟨⟩
    decide
  have hplanned : ((barelyDeclared "standard").lateInitialize sizedCache).run twoPlans =
      (.ok true, barelyFilled "standard") := by decide +kernel
  have hsilent : ((barelyDeclared "").lateInitialize sizedCache).run twoPlans =
      (.ok true, barelyFilled "lite") := by decide +kernel
  have hchanged : ((barelyFilled "standard").changedFields sizedCache).run twoPlans =
      .ok [.plan] := by decide +kernel
  have hopen : ∀ f, (barelyDeclared "").given f = none := fun f => by cases f <;> rfl
  obtain ⟨hgiven, -⟩ := only_given_fields_differ.2.2.2 _ _ _ _ _ hdistinct hplanned
  obtain ⟨-, hsettled⟩ := only_given_fields_differ.2.2.2 _ _ _ _ _ hdistinct hsilent
  obtain ⟨-, hpatch, -, htags⟩ := hsettled hopen
  exact ⟨hchanged, hgiven _ hchanged .plan List.mem_cons_self, hpatch, htags⟩

end ResourceInstance

end ResourceOperator
