import ResourceOperator.Proofs.External.Sighting
import ResourceOperator.Proofs.Unset

/-!
# Late initialization between lookups

Late initialization of a service instance fills the target first, then the name of the resource
group, then the name of the plan, and then all the rest. The two names are looked up in the catalog,
either lookup can fail, and what was filled before it stays (`Ended`). So an attempt that fails
leaves a declaration that is filled in part, and the next attempt starts from there.

What decides whether a name is looked up is kept by filling: a name that was found is set and is not
looked up again, and the service, which tells where to look for the plan, is never filled. An attempt
that fails therefore takes nothing away from what a complete one comes to
(`Parameters.completed`), where the catalog always gives the same name to the same id.

Results:
* `ended_of_run`: where a run ends, with what was asked and what is filled by then.
* `filledBy_of_run`: what a run does to each field, which lookups it makes, and what it is marked as.
* `Ended.completed_eq`: an attempt keeps what a complete one comes to; `Attempts.completed_eq`: any
  number of attempts.
* `late_initialization_resumable`: these two for every catalog.
* `resumedCache_completed`: this for an instance whose plan is not found at first.
-/

namespace ResourceOperator.ResourceInstance

open Cloud Dialogue Filled

variable {p p' : Parameters} {r : Remote} {log : List (Exchange Catalog)}
  {out : Except EngineError Bool}

/-! ## Lookups -/

/-- A name is looked up where it is empty, and what to look for is known. -/
def wanted (name : String) (known : Prop) [Decidable known] (q : CatalogCall) :
    Option CatalogCall :=
  if name = "" ∧ known then some q else none

/-- The lookup of the resource group that the instance has. -/
def Parameters.groupLookup (p : Parameters) (r : Remote) : Option CatalogCall :=
  wanted p.resourceGroupName (r.resourceGroupId ≠ "") (.groupName r.resourceGroupId)

/-- The lookup of the plan that the instance has; for this the service must be known, too. -/
def Parameters.planLookup (p : Parameters) (r : Remote) : Option CatalogCall :=
  wanted p.resourcePlanName (p.serviceName ≠ "" ∧ r.resourcePlanId ≠ "")
    (.planName p.serviceName r.resourcePlanId)

/-- The lookups that late initialization makes, in order. -/
def Parameters.lookups (p : Parameters) (r : Remote) : List CatalogCall :=
  (p.groupLookup r).toList ++ (p.planLookup r).toList

/-- What becomes of a lookup: where it is not wanted there is an empty name. -/
inductive Looking (lookup : Option CatalogCall) :
    List (Exchange Catalog) → Except EngineError String → Prop where
  | skipped (h : lookup = none) : Looking lookup [] (.ok "")
  | found {q : CatalogCall} (h : lookup = some q) (name : String) :
    Looking lookup [⟨q, .ok name⟩] (.ok name)
  | failed {q : CatalogCall} (h : lookup = some q) (e : Failure) (context : String) :
    Looking lookup [⟨q, .error e⟩] (.error (.lookup context e))

section Wanted

variable {name : String} {known : Prop} [Decidable known] {q : CatalogCall}

theorem wanted_of_known (hname : name = "") (hknown : known) : wanted name known q = some q :=
  if_pos ⟨hname, hknown⟩

theorem wanted_of_unknown (hknown : ¬ known) : wanted name known q = none :=
  if_neg fun h => hknown h.2

theorem wanted_of_set (hname : name ≠ "") : wanted name known q = none :=
  if_neg fun h => hname h.1

theorem wanted_eq_some {c : CatalogCall} (h : wanted name known q = some c) : c = q := by
  unfold wanted at h
  split at h
  · exact (Option.some.inj h).symm
  · cases h

/-- A name that is looked up where it is empty is a lookup that is wanted, unless it is not known
what to look for. -/
theorem looking_of_run {unknown : Bool} (hunknown : unknown = true ↔ ¬ known) {context : String}
    {out : Except EngineError String}
    (run : Run (looked name (if unknown then pure (.ok "") else do
      let answer ← Dialogue.call (I := Catalog) q
      pure (answer.mapError (.lookup context)))) log out) :
    Looking (wanted name known q) log out := by
  unfold looked at run
  by_cases hname : name = ""
  · rw [if_pos (String.isEmpty_iff.mpr hname)] at run
    by_cases hknown : known
    · rw [if_neg fun h => hunknown.mp h hknown] at run
      obtain ⟨answer, rfl, rfl⟩ := run_ask_done_iff.mp run
      cases answer with
      | error e => exact .failed (wanted_of_known hname hknown) e context
      | ok found => exact .found (wanted_of_known hname hknown) found
    · rw [if_pos (hunknown.mpr hknown)] at run
      obtain ⟨rfl, rfl⟩ := run_done_iff.mp run
      exact .skipped (wanted_of_unknown hknown)
  · rw [if_neg fun h => hname (String.isEmpty_iff.mp h)] at run
    obtain ⟨rfl, rfl⟩ := run_done_iff.mp run
    exact .skipped (wanted_of_set hname)

end Wanted

theorem looking_group {out : Except EngineError String}
    (run : Run (looked p.resourceGroupName (groupName r.resourceGroupId)) log out) :
    Looking (p.groupLookup r) log out :=
  looking_of_run (by simp) run

theorem looking_plan {out : Except EngineError String}
    (run : Run (looked p.resourcePlanName (planName p.serviceName r.resourcePlanId)) log out) :
    Looking (p.planLookup r) log out :=
  looking_of_run (by simp; tauto) run

/-! ## Where a run ends -/

/-- The declaration with its target. -/
def Parameters.targeted (p : Parameters) (r : Remote) : Parameters :=
  { p with target := (ofRequired p.target r.regionId).value }

/-- The declaration with its target, and with the name of the resource group that was found. -/
def Parameters.grouped (p : Parameters) (r : Remote) (group : String) : Parameters :=
  { p.targeted r with resourceGroupName := (ofRequired p.resourceGroupName group).value }

/-- Late initialization ends where a lookup fails, with what was filled before, or with everything
filled. -/
inductive Ended (p : Parameters) (r : Remote) :
    List (Exchange Catalog) → Except EngineError Bool → Parameters → Prop where
  | noGroup {log : List (Exchange Catalog)} {e : EngineError}
    (hgroup : Looking (p.groupLookup r) log (.error e)) :
    Ended p r log (.error e) (p.targeted r)
  | noPlan {first rest : List (Exchange Catalog)} {group : String} {e : EngineError}
    (hgroup : Looking (p.groupLookup r) first (.ok group))
    (hplan : Looking (p.planLookup r) rest (.error e)) :
    Ended p r (first ++ rest) (.error e) (p.grouped r group)
  | filled {first rest : List (Exchange Catalog)} {group plan : String}
    (hgroup : Looking (p.groupLookup r) first (.ok group))
    (hplan : Looking (p.planLookup r) rest (.ok plan)) :
    Ended p r (first ++ rest)
      (.ok ((ofRequired p.target r.regionId).changed ||
        (ofRequired p.resourceGroupName group).changed ||
        (ofRequired p.resourcePlanName plan).changed ||
        ((p.named r group plan).fillReported r).changed))
      ((p.named r group plan).fillReported r).value

theorem ended_of_run (run : Run (p.lateInitialize r) log (out, p')) : Ended p r log out p' := by
  rw [Parameters.lateInitialize] at run
  dsimp only at run
  rw [looked_bind] at run
  obtain ⟨first, rest, looked, hgroup, run, rfl⟩ := Run.bind.mp run
  have hgroup := looking_group hgroup
  cases looked with
  | error e =>
    obtain ⟨rfl, hend⟩ := run_done_iff.mp run
    cases hend
    rw [List.append_nil]
    exact .noGroup hgroup
  | ok group =>
    dsimp only at run
    rw [looked_bind] at run
    obtain ⟨middle, last, looked, hplan, run, rfl⟩ := Run.bind.mp run
    have hplan := looking_plan hplan
    cases looked with
    | error e =>
      obtain ⟨rfl, hend⟩ := run_done_iff.mp run
      cases hend
      rw [List.append_nil]
      exact .noPlan hgroup hplan
    | ok plan =>
      obtain ⟨rfl, hend⟩ := run_done_iff.mp run
      cases hend
      rw [List.append_nil]
      exact .filled hgroup hplan

/-! ## What a run does -/

/-- The lookups that were made. -/
def asked (log : List (Exchange Catalog)) : List CatalogCall :=
  log.map fun x => x.question

theorem asked_append (first rest : List (Exchange Catalog)) :
    asked (first ++ rest) = asked first ++ asked rest :=
  List.map_append

/-- The name that was found where it was looked up. -/
def lookedUp (q : CatalogCall) (log : List (Exchange Catalog)) : Option String :=
  log.findSome? fun x => if x.question = q then Except.toOption x.answer else none

theorem lookedUp_append (q : CatalogCall) (first rest : List (Exchange Catalog)) :
    lookedUp q (first ++ rest) = (lookedUp q first).or (lookedUp q rest) :=
  List.findSome?_append

namespace Looking

variable {lookup : Option CatalogCall} {name : String} {e : EngineError}

theorem lookedUp_of_ne {out : Except EngineError String} (h : Looking lookup log out)
    {q : CatalogCall} (hq : ∀ c, lookup = some c → c ≠ q) : lookedUp q log = none := by
  cases h with
  | skipped => rfl
  | found hlookup => simp [lookedUp, hq _ hlookup]
  | failed hlookup => simp [lookedUp, hq _ hlookup]

theorem lookedUp_of_error (h : Looking lookup log (.error e)) (q : CatalogCall) :
    lookedUp q log = none := by
  cases h with
  | failed hlookup e context => simp [lookedUp, Except.toOption]

/-- A name that is looked up is found, and where it is not looked up there is none. -/
theorem name_eq (h : Looking lookup log (.ok name)) {q : CatalogCall}
    (hq : ∀ c, lookup = some c → c = q) : name = (lookedUp q log).getD "" := by
  cases h with
  | skipped => rfl
  | found hlookup =>
    obtain rfl := hq _ hlookup
    simp [lookedUp, Except.toOption]

/-- A lookup that is wanted is made once. -/
theorem asked_eq {out : Except EngineError String} (h : Looking lookup log out) :
    asked log = lookup.toList := by
  cases h with
  | skipped hlookup => rw [hlookup]; rfl
  | found hlookup => rw [hlookup]; rfl
  | failed hlookup => rw [hlookup]; rfl

end Looking

theorem nodup_lookups : (p.lookups r).Nodup := by
  refine List.nodup_append.mpr ⟨?_, ?_, ?_⟩
  · cases p.groupLookup r <;> simp
  · cases p.planLookup r <;> simp
  · rintro c hc _ hc' rfl
    have hgroup := wanted_eq_some (Option.mem_toList.mp hc)
    rw [wanted_eq_some (Option.mem_toList.mp hc')] at hgroup
    cases hgroup

/-- A name that is unset when it is empty, and that was found or not. -/
def FillsName (found : Option String) (before after : String) : Prop :=
  Fills (before = "") (found.bind nonEmpty) before after

theorem ofRequired_fillsName (desired : String) (found : Option String) :
    FillsName found desired (ofRequired desired (found.getD "")).value := by
  cases found with
  | none =>
    have hkept : ofRequired desired "" = keep desired := if_neg (by simp)
    rw [Option.getD_none, hkept]
    exact .kept fun _ => rfl
  | some name => exact ofRequired_fills desired name

/-- What there is to fill in once no lookup has failed. -/
def onSuccess {α : Type} (out : Except EngineError Bool) (observed : Option α) : Option α :=
  match out with
  | .error _ => none
  | .ok _ => observed

/-- What a run of late initialization does: it keeps each field, or the field was unset and is now
what the instance has or what was looked up. -/
structure FilledBy (r : Remote) (log : List (Exchange Catalog)) (out : Except EngineError Bool)
    (before after : Parameters) : Prop where
  name : after.name = before.name
  serviceName : after.serviceName = before.serviceName
  target : FillsRequired r.regionId before.target after.target
  resourceGroupName : FillsName (lookedUp (.groupName r.resourceGroupId) log)
    before.resourceGroupName after.resourceGroupName
  resourcePlanName : FillsName (lookedUp (.planName before.serviceName r.resourcePlanId) log)
    before.resourcePlanName after.resourcePlanName
  tags : FillsOption (onSuccess out (if r.tags.isEmpty then none else some r.tags)) before.tags
    after.tags
  allowCleanup : FillsOption (onSuccess out (some r.allowCleanup)) before.allowCleanup
    after.allowCleanup
  parameters : FillsOption (onSuccess out (r.parameters.filter informative)) before.parameters
    after.parameters
  entityLock : FillsOption (onSuccess out (some r.locked)) before.entityLock after.entityLock
  /-- The lookups that are made are the first ones of those that are wanted. -/
  lookups : asked log <+: before.lookups r
  once : (asked log).Nodup
  /-- A run ends with the first failure of a lookup. -/
  consulted : Consulted log out
  /-- A run that does not fail makes all lookups, and it is marked if it is a change. -/
  marked : ∀ changed, out = .ok changed →
    asked log = before.lookups r ∧ (changed = true ↔ after ≠ before)

theorem fillsOption_kept {α : Type} (before : Option α) : FillsOption none before before :=
  .kept fun _ => rfl

/-- The lookups that a run makes are the first ones of those that are wanted. -/
theorem Ended.lookups (h : Ended p r log out p') : asked log <+: p.lookups r := by
  cases h with
  | noGroup hgroup =>
    rw [hgroup.asked_eq]
    exact List.prefix_append _ _
  | noPlan hgroup hplan =>
    rw [asked_append, hgroup.asked_eq, hplan.asked_eq]
    exact List.prefix_refl _
  | filled hgroup hplan =>
    rw [asked_append, hgroup.asked_eq, hplan.asked_eq]
    exact List.prefix_refl _

/-- A run that does not fail makes all lookups, and it is marked if it is a change. -/
theorem Ended.marked {changed : Bool} (h : Ended p r log (.ok changed) p') :
    asked log = p.lookups r ∧ (changed = true ↔ p' ≠ p) := by
  cases h with
  | filled hgroup hplan =>
    refine ⟨?_, ?_⟩
    · rw [asked_append, hgroup.asked_eq, hplan.asked_eq]
      rfl
    · obtain ⟨name, target, groupName, service, planName, tags, cleanup, parameters, lock⟩ := p
      simp only [Parameters.named, Parameters.fillReported, Bool.or_eq_true, ofRequired_changed_iff,
        ofOption_changed_iff, ne_eq, Parameters.mk.injEq]
      tauto

theorem Ended.group_filled (h : Ended p r log out p') :
    FillsName (lookedUp (.groupName r.resourceGroupId) log) p.resourceGroupName
      p'.resourceGroupName := by
  have hplan_ne : ∀ c, p.planLookup r = some c → c ≠ .groupName r.resourceGroupId := by
    intro c hc
    rw [wanted_eq_some hc]
    nofun
  cases h with
  | noGroup hgroup =>
    rw [hgroup.lookedUp_of_error]
    exact .kept fun _ => rfl
  | noPlan hgroup hplan =>
    rw [lookedUp_append, hplan.lookedUp_of_ne hplan_ne, Option.or_none]
    show FillsName _ _ (ofRequired p.resourceGroupName _).value
    rw [hgroup.name_eq fun c => wanted_eq_some]
    exact ofRequired_fillsName _ _
  | filled hgroup hplan =>
    rw [lookedUp_append, hplan.lookedUp_of_ne hplan_ne, Option.or_none]
    show FillsName _ _ (ofRequired p.resourceGroupName _).value
    rw [hgroup.name_eq fun c => wanted_eq_some]
    exact ofRequired_fillsName _ _

theorem Ended.plan_filled (h : Ended p r log out p') :
    FillsName (lookedUp (.planName p.serviceName r.resourcePlanId) log) p.resourcePlanName
      p'.resourcePlanName := by
  have hgroup_ne : ∀ c, p.groupLookup r = some c → c ≠ .planName p.serviceName r.resourcePlanId := by
    intro c hc
    rw [wanted_eq_some hc]
    nofun
  cases h with
  | noGroup hgroup =>
    rw [hgroup.lookedUp_of_error]
    exact .kept fun _ => rfl
  | noPlan hgroup hplan =>
    rw [lookedUp_append, hgroup.lookedUp_of_ne hgroup_ne, hplan.lookedUp_of_error, Option.or_none]
    exact .kept fun _ => rfl
  | filled hgroup hplan =>
    rw [lookedUp_append, hgroup.lookedUp_of_ne hgroup_ne, Option.none_or]
    show FillsName _ _ (ofRequired p.resourcePlanName _).value
    rw [hplan.name_eq fun c => wanted_eq_some]
    exact ofRequired_fillsName _ _

theorem filledBy_of_run (run : Run (p.lateInitialize r) log (out, p')) :
    FilledBy r log out p p' := by
  have hconsulted : Consulted log out := consulted_lateInitialize run
  have hended := ended_of_run run
  have hgroup := hended.group_filled
  have hplan := hended.plan_filled
  have hlookups := hended.lookups
  have honce : (asked log).Nodup := nodup_lookups.sublist hlookups.sublist
  cases hended with
  | noGroup =>
    exact ⟨rfl, rfl, ofRequired_fills _ _, hgroup, hplan, fillsOption_kept _, fillsOption_kept _,
      fillsOption_kept _, fillsOption_kept _, hlookups, honce, hconsulted, nofun⟩
  | noPlan =>
    exact ⟨rfl, rfl, ofRequired_fills _ _, hgroup, hplan, fillsOption_kept _, fillsOption_kept _,
      fillsOption_kept _, fillsOption_kept _, hlookups, honce, hconsulted, nofun⟩
  | filled hgroup' hplan' =>
    refine ⟨rfl, rfl, ofRequired_fills _ _, hgroup, hplan, ofOption_fills _ _, ofOption_fills _ _,
      ofOption_fills _ _, ofOption_fills _ _, hlookups, honce, hconsulted, ?_⟩
    rintro _ ⟨⟩
    exact (Ended.filled hgroup' hplan').marked

/-! ## Attempts -/

section Attempts

variable {told : CatalogCall → String}

/-- The names that are found are always the same. -/
def Truthful (told : CatalogCall → String) (log : List (Exchange Catalog)) : Prop :=
  ∀ q name, (⟨q, .ok name⟩ : Exchange Catalog) ∈ log → name = told q

theorem Truthful.left {first rest : List (Exchange Catalog)} (h : Truthful told (first ++ rest)) :
    Truthful told first :=
  fun q name hmem => h q name (List.mem_append_left rest hmem)

theorem Truthful.right {first rest : List (Exchange Catalog)} (h : Truthful told (first ++ rest)) :
    Truthful told rest :=
  fun q name hmem => h q name (List.mem_append_right first hmem)

/-- A catalog that finds every name. -/
def finding (told : CatalogCall → String) (q : CatalogCall) : Except Failure String :=
  .ok (told q)

/-- The name that is found where it is known what to look for. -/
def toldIf (told : CatalogCall → String) (known : Prop) [Decidable known] (q : CatalogCall) :
    String :=
  if known then told q else ""

/-- The name of the resource group of an instance. -/
def groupTold (told : CatalogCall → String) (r : Remote) : String :=
  toldIf told (r.resourceGroupId ≠ "") (.groupName r.resourceGroupId)

/-- The name of the plan of an instance of a service. -/
def planTold (told : CatalogCall → String) (service : String) (r : Remote) : String :=
  toldIf told (service ≠ "" ∧ r.resourcePlanId ≠ "") (.planName service r.resourcePlanId)

/-- What a complete attempt comes to. -/
def Parameters.completed (told : CatalogCall → String) (p : Parameters) (r : Remote) : Parameters :=
  ((p.named r (groupTold told r) (planTold told p.serviceName r)).fillReported r).value

theorem ofRequired_of_set {desired : String} (h : desired ≠ "") (observed : String) :
    ofRequired desired observed = keep desired :=
  if_neg (by simp [h])

/-- A name that is found, or is not looked up, fills in what a complete attempt does. -/
theorem Looking.ofRequired_told {name found : String} {known : Prop} [Decidable known]
    {q : CatalogCall} (h : Looking (wanted name known q) log (.ok found))
    (htruth : Truthful told log) :
    ofRequired name found = ofRequired name (toldIf told known q) := by
  by_cases hname : name = ""
  · unfold toldIf
    by_cases hknown : known
    · rw [wanted_of_known hname hknown] at h
      rw [if_pos hknown]
      cases h with
      | skipped hlookup => cases hlookup
      | found hlookup =>
        cases hlookup
        rw [htruth q found List.mem_cons_self]
    · rw [wanted_of_unknown hknown] at h
      rw [if_neg hknown]
      cases h with
      | skipped => rfl
      | found hlookup => cases hlookup
  · rw [ofRequired_of_set hname, ofRequired_of_set hname]

theorem completed_again : (p.completed told r).completed told r = p.completed told r := by
  unfold Parameters.completed Parameters.named Parameters.fillReported
  simp [keep]

/-- An attempt that does not fail is complete. -/
theorem Ended.eq_completed {changed : Bool} (h : Ended p r log (.ok changed) p')
    (htruth : Truthful told log) : p' = p.completed told r := by
  cases h with
  | filled hgroup hplan =>
    unfold Parameters.completed Parameters.named
    rw [hgroup.ofRequired_told htruth.left, hplan.ofRequired_told htruth.right]
    rfl

/-- Whatever an attempt fills, a complete one comes to the same after it as before. -/
theorem Ended.completed_eq (h : Ended p r log out p') (htruth : Truthful told log) :
    p'.completed told r = p.completed told r := by
  cases hout : out with
  | ok changed =>
    rw [hout] at h
    rw [h.eq_completed htruth, completed_again]
  | error e =>
    cases h with
    | noGroup hgroup =>
      unfold Parameters.completed Parameters.named Parameters.targeted
      simp [keep]
    | noPlan hgroup hplan =>
      unfold Parameters.completed Parameters.named Parameters.grouped Parameters.targeted
      rw [hgroup.ofRequired_told htruth.left]
      simp [groupTold, keep]
    | filled => cases hout

/-- What is complete is kept by every attempt, whether it fails or not. -/
theorem Ended.eq_of_completed (h : Ended (p.completed told r) r log out p')
    (htruth : Truthful told log) : p' = p.completed told r := by
  cases hout : out with
  | ok changed =>
    rw [hout] at h
    rw [h.eq_completed htruth, completed_again]
  | error e =>
    cases h with
    | noGroup hgroup =>
      unfold Parameters.targeted Parameters.completed Parameters.named Parameters.fillReported
      simp [keep]
    | noPlan hgroup hplan =>
      -- the resource group has the name that is found, or there is none to be found
      unfold Parameters.grouped Parameters.targeted
      rw [hgroup.ofRequired_told htruth.left]
      unfold Parameters.completed Parameters.named Parameters.fillReported groupTold
      simp [keep]
    | filled => cases hout

/-- Attempts that fail, each of which goes on from what the one before it has filled. -/
inductive Attempts (told : CatalogCall → String) (r : Remote) : Parameters → Parameters → Prop where
  | none (p : Parameters) : Attempts told r p p
  | failed {p p₁ p₂ : Parameters} {log : List (Exchange Catalog)} {e : EngineError}
    (before : Attempts told r p p₁) (run : Run (p₁.lateInitialize r) log (.error e, p₂))
    (truth : Truthful told log) : Attempts told r p p₂

theorem Attempts.completed_eq (h : Attempts told r p p') :
    p'.completed told r = p.completed told r := by
  induction h with
  | none => rfl
  | failed before run truth ih => exact ((ended_of_run run).completed_eq truth).trans ih

/-- A run in which every lookup finds a name does not fail. -/
theorem ok_of_answered (run : Run (p.lateInitialize r) log (out, p')) (h : Answered log) :
    ∃ changed, out = .ok changed := by
  have hconsulted : Consulted log out := consulted_lateInitialize run
  cases hconsulted with
  | answered _ changed => exact ⟨changed, rfl⟩
  | failed hanswered q e context =>
    obtain ⟨q', name, hx⟩ := h ⟨q, .error e⟩ (List.mem_append_right _ List.mem_cons_self)
    cases hx

/-- The run in which every lookup finds a name is complete. -/
theorem run_told : ∃ changed,
    (p.lateInitialize r).run (finding told) = (.ok changed, p.completed told r) := by
  obtain ⟨log, run, hlog⟩ :=
    exists_run (I := Catalog) (finding told) (p.lateInitialize r)
  have hanswered : Answered log := by
    rintro ⟨q, answer⟩ hx
    obtain rfl : answer = .ok (told q) := hlog _ hx
    exact ⟨q, told q, rfl⟩
  have htruth : Truthful told log := by
    intro q name hx
    exact Except.ok.inj (hlog _ hx)
  generalize (p.lateInitialize r).run (finding told) = ended at run ⊢
  obtain ⟨out, p'⟩ := ended
  obtain ⟨changed, rfl⟩ := ok_of_answered run hanswered
  exact ⟨changed, congrArg _ ((ended_of_run run).eq_completed htruth)⟩

end Attempts

/-- **Late initialization can be resumed.** Whatever the catalog answers, and whether a lookup fails
or not, no field that is set is overwritten, and a field that is filled was unset and is now what the
instance has or what was looked up. A name is looked up only where it is unset and its id is known,
and at most once; without a failure the run is marked exactly if it is a change.

Where the catalog always gives the same name to the same id, a run whose lookups succeed comes to the
same after any number of failed attempts, each of which goes on from what the one before it has
filled, as a run that never failed. A further run changes nothing, also one that fails, and is not
marked as a change. -/
theorem late_initialization_resumable :
    (∀ (p p' : Parameters) (r : Remote) (log : List (Exchange Catalog))
      (out : Except EngineError Bool), Run (p.lateInitialize r) log (out, p') →
      FilledBy r log out p p') ∧
    ∀ (told : CatalogCall → String) (p p₁ p₂ : Parameters) (r : Remote)
      (log : List (Exchange Catalog)) (out : Except EngineError Bool),
      Attempts told r p p₁ → Run (p₁.lateInitialize r) log (out, p₂) → Truthful told log →
      Answered log →
      (∃ changed, out = .ok changed) ∧
      (∃ changed, (p.lateInitialize r).run (finding told) = (.ok changed, p₂)) ∧
      ∀ (log' : List (Exchange Catalog)) (out' : Except EngineError Bool) (p₃ : Parameters),
        Run (p₂.lateInitialize r) log' (out', p₃) → Truthful told log' →
        p₃ = p₂ ∧ ∀ changed, out' = .ok changed → changed = false := by
  refine ⟨fun p p' r log out run => filledBy_of_run run, ?_⟩
  intro told p p₁ p₂ r log out attempts run htruth hanswered
  obtain ⟨changed, rfl⟩ := ok_of_answered run hanswered
  have hcompleted : p₂ = p.completed told r :=
    ((ended_of_run run).eq_completed htruth).trans attempts.completed_eq
  rw [hcompleted]
  refine ⟨⟨changed, rfl⟩, run_told, ?_⟩
  intro log' out' p₃ run' htruth'
  have hkept : p₃ = p.completed told r := (ended_of_run run').eq_of_completed htruth'
  refine ⟨hkept, ?_⟩
  rintro changed' rfl
  have hmarked := ((ended_of_run run').marked).2
  rw [← Bool.not_eq_true, hmarked]
  exact fun hne => hne hkept

/-- A declared cache, of which only the service and a tag are given. -/
def openCache : Parameters :=
  ⟨"cache", "", "", "redis", "", some ["team-a"], none, none, none⟩

/-- The cache in the cloud. -/
def grownCache : Remote :=
  ⟨"i-1", "", "crn-1", "", "cache", "", "g-1", "", "plan-1", "", "us-south", .active, true, false,
    none, none, none, none, ["old"]⟩

/-- The names in the catalog. -/
def names : CatalogCall → String
  | .groupName _ => "default"
  | _ => "standard"

/-- The cache with its target and the name of its resource group, but not that of its plan. -/
def groupedCache : Parameters :=
  ⟨"cache", "us-south", "default", "redis", "", some ["team-a"], none, none, none⟩

/-- The first run fails at the plan. The second one does not ask for the resource group again, and
ends as a run that does not fail. -/
theorem resumedCache_completed :
    ∃ (log log' : List (Exchange Catalog)) (e : EngineError) (p₂ : Parameters),
      Run (openCache.lateInitialize grownCache) log (.error e, groupedCache) ∧
      Run (groupedCache.lateInitialize grownCache) log' (.ok true, p₂) ∧
      asked log = [.groupName "g-1", .planName "redis" "plan-1"] ∧
      asked log' = [.planName "redis" "plan-1"] ∧
      FilledBy grownCache log (.error e) openCache groupedCache ∧
      (∃ changed, (openCache.lateInitialize grownCache).run (finding names) =
        (.ok changed, p₂)) ∧
      p₂ = ⟨"cache", "us-south", "default", "redis", "standard", some ["team-a"], some true, none,
        some false⟩ := by
  have failed : Run (openCache.lateInitialize grownCache)
      [⟨.groupName "g-1", .ok "default"⟩, ⟨.planName "redis" "plan-1", .error .http⟩]
      (.error (.lookup "cannot look up resource plan name" .http), groupedCache) :=
    .ask (I := Catalog) (.groupName "g-1") (.ok "default")
      (.ask (I := Catalog) (.planName "redis" "plan-1") (.error .http) (.done _))
  have resumed : Run (groupedCache.lateInitialize grownCache)
      [⟨.planName "redis" "plan-1", .ok "standard"⟩]
      (.ok true, ⟨"cache", "us-south", "default", "redis", "standard", some ["team-a"], some true,
        none, some false⟩) :=
    .ask (I := Catalog) (.planName "redis" "plan-1") (.ok "standard") (.done _)
  have attempts : Attempts names grownCache openCache groupedCache := by
    refine .failed (.none openCache) failed ?_
    intro q name hx
    rcases List.mem_cons.mp hx with hx | hx
    · cases hx
      rfl
    · cases List.mem_singleton.mp hx
  have htruth : Truthful names [⟨.planName "redis" "plan-1", .ok "standard"⟩] := by
    intro q name hx
    cases List.mem_singleton.mp hx
    rfl
  have hanswered : Answered [⟨.planName "redis" "plan-1", .ok "standard"⟩] :=
    fun x hx => ⟨_, _, List.mem_singleton.mp hx⟩
  obtain ⟨-, hcomplete, -⟩ := late_initialization_resumable.2 names openCache groupedCache _
    grownCache _ _ attempts resumed htruth hanswered
  exact ⟨_, _, _, _, failed, resumed, rfl, rfl,
    late_initialization_resumable.1 _ _ _ _ _ failed, hcomplete, rfl⟩

end ResourceOperator.ResourceInstance
