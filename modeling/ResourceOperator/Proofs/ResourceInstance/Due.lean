import ResourceOperator.Proofs.ResourceInstance.Agreement

/-!
# The calls that an update of an instance makes

An update of an instance makes up to three calls: it sends the fields that disagree, it attaches
tags, and it detaches tags. `due` are these calls. The cloud makes of the instance what each call
says (`Host.effect`): it replaces the name, the plan and the flag, it replaces the parameters or sets
their members, and it adds and removes tags.

A call that takes effect leaves those due that came after it. For the fields this is because what
the update names agrees once it is applied; the plan does since the catalog has its name for the id
that was sent, and the parameters do since what is sent is contained in what the instance then has.

Results:
* `contained_take`: parameters that the cloud has taken are contained in what the instance has.
* `agrees_patched`: once the update is applied, all agrees but the tags.
* `due_step`, `due_effects`: what is due after calls have taken effect.
* `settled_of_due_nil`: where no call is due, nothing disagrees.
-/

namespace ResourceOperator.ResourceInstance

open Cloud

/-! ## The cloud that holds an instance -/

/-- How the cloud takes parameters that are sent. -/
inductive Uptake where
  /-- They replace what the instance has. -/
  | replace
  /-- Where both are objects, each member that is sent is set. -/
  | merge
  deriving DecidableEq, Repr

/-- The parameters of an instance after some have been sent. -/
def Uptake.take (u : Uptake) (sent : Json) (held : Option Json) : Json :=
  match u, sent, held with
  | .merge, .object members, some (.object found) =>
    .object (members.foldl (fun t e => Table.insert e.1 e.2 t) found)
  | _, sent, _ => sent

/-- An instance after an update of some fields. -/
def Remote.patched (u : Uptake) (patch : Patch) (s : Remote) : Remote :=
  { s with
    name := ((Table.get? "name" patch).bind Json.string?).getD s.name
    resourcePlanId :=
      ((Table.get? "resource_plan_id" patch).bind Json.string?).getD s.resourcePlanId
    allowCleanup := ((Table.get? "allow_cleanup" patch).bind Json.flag).getD s.allowCleanup
    parameters :=
      match Table.get? "parameters" patch with
      | some sent => some (u.take sent s.parameters)
      | none => s.parameters }

section Patched

variable (u : Uptake) (patch : Patch) (s : Remote)

theorem name_patched : (s.patched u patch).name =
    ((Table.get? Field.name.wireName patch).bind Json.string?).getD s.name := rfl

theorem resourcePlanId_patched : (s.patched u patch).resourcePlanId =
    ((Table.get? Field.plan.wireName patch).bind Json.string?).getD s.resourcePlanId := rfl

theorem parameters_patched : (s.patched u patch).parameters =
    match Table.get? Field.parameters.wireName patch with
    | some sent => some (u.take sent s.parameters)
    | none => s.parameters := rfl

theorem allowCleanup_patched : (s.patched u patch).allowCleanup =
    ((Table.get? Field.allowCleanup.wireName patch).bind Json.flag).getD s.allowCleanup := rfl

end Patched

/-- An instance with other tags. -/
def Remote.withTags (s : Remote) (tags : List String) : Remote :=
  { s with tags := tags }

/-- The cloud around an instance: its catalog, the id that the instance has, and how parameters are
taken. -/
structure Host where
  catalog : Catalog.Answers
  id : String
  uptake : Uptake

namespace Host

/-- What a call of an update makes of the instance. -/
def effect (c : Host) : Cloud.Call → Remote → Remote
  | .controller (.updateInstance id patch), s => if id = c.id then s.patched c.uptake patch else s
  | .controller (.attachTags crn tags), s => if crn = s.crn then s.withTags (s.tags ++ tags) else s
  | .controller (.detachTags crn tags), s =>
    if crn = s.crn then s.withTags (s.tags.filter fun t => !tags.contains t) else s
  | _, s => s

/-- What calls make of the instance, one after the other. -/
def effects (c : Host) (calls : List Cloud.Call) (s : Remote) : Remote :=
  calls.foldl (fun s call => c.effect call s) s

end Host

/-- What the convergence of updates relies on. -/
structure Updatable (c : Host) (p : Parameters) (s : Remote) : Prop where
  /-- The declaration tells the service. -/
  service : p.serviceName ≠ ""
  /-- The instance exists. -/
  present : s.state.isPresent = true
  /-- A declared object has each member once, as every document that is read. -/
  members : ∀ members, p.parameters = some (.object members) → (Table.keys members).Nodup
  /-- The catalog has a name for the plan of the instance. -/
  named : s.resourcePlanId ≠ "" →
    ∃ plan, c.catalog (.planName p.serviceName s.resourcePlanId) = .ok plan
  /-- The catalog has an id for the plan that is declared. -/
  found : p.resourcePlanName ≠ "" →
    ∃ planId, c.catalog (.planId p.serviceName p.resourcePlanName) = .ok planId
  /-- The plan with that id has the name that is declared. -/
  inverse : ∀ planId, c.catalog (.planId p.serviceName p.resourcePlanName) = .ok planId →
    planId ≠ "" ∧ c.catalog (.planName p.serviceName planId) = .ok p.resourcePlanName

variable {c : Host} {p : Parameters} {s : Remote} {u : Uptake} {plan planId : String}
  {call : Cloud.Call} {done rest : List Cloud.Call}

/-! ## Fields that the cloud has taken -/

/-- Parameters that the cloud has taken are contained in what the instance has. -/
theorem contained_take {sent : Json} {held : Option Json}
    (h : ∀ members, sent = .object members → (Table.keys members).Nodup) :
    contained sent (some (u.take sent held)) = true := by
  unfold Uptake.take
  split
  · next members found =>
    refine contained_object fun e he => ?_
    have hnodup : (Table.keys members).Nodup := h members rfl
    rw [Table.get?_foldl_insert hnodup, Table.get?_of_mem hnodup he]
    rfl
  · exact contained_self h

/-- Once the update is applied, all agrees but the tags. The plan is the one that is declared if it
had to change. -/
theorem agrees_patched (hm : ∀ members, p.parameters = some (.object members) →
      (Table.keys members).Nodup) {f : Field} (htags : f ≠ .tags) :
    f.Agrees p (s.patched u (p.patchFor s plan planId))
      (if Field.plan ∈ p.changedFieldsWith s plan then p.resourcePlanName else plan) := by
  have hget : Table.get? f.wireName (p.patchFor s plan planId) =
      if f ∈ p.changedFieldsWith s plan then p.said planId f else none := get?_patchFor f
  by_cases hf : f ∈ p.changedFieldsWith s plan
  · rw [if_pos hf] at hget
    cases f with
    | name =>
      intro _
      rw [name_patched, hget]
      rfl
    | plan =>
      intro _
      exact if_pos hf
    | parameters =>
      intro v hv
      have hsent : p.said planId .parameters = some v := hv
      rw [parameters_patched, hget, hsent]
      exact contained_take fun members he => hm members (hv.trans (congrArg some he))
    | allowCleanup =>
      intro b hb
      rw [allowCleanup_patched, hget, Parameters.said, hb]
      rfl
    | tags => exact absurd rfl htags
  · rw [if_neg hf] at hget
    have hbefore : f.Agrees p s plan := by
      by_contra hne
      exact hf ((mem_changedFieldsWith f).mpr hne)
    cases f with
    | name =>
      intro hne
      rw [name_patched, hget]
      exact hbefore hne
    | plan =>
      rw [if_neg hf]
      exact hbefore
    | parameters =>
      intro v hv
      rw [parameters_patched, hget]
      exact hbefore v hv
    | allowCleanup =>
      intro b hb
      rw [allowCleanup_patched, hget]
      exact hbefore b hb
    | tags => exact absurd rfl htags

theorem planId_patched : (s.patched u (p.patchFor s plan planId)).resourcePlanId =
    if Field.plan ∈ p.changedFieldsWith s plan then planId else s.resourcePlanId := by
  rw [resourcePlanId_patched, get?_patchFor]
  split <;> rfl

/-! ## The calls that are due -/

/-- The calls that send an update and change tags; nothing is sent that is empty. -/
def sends (id crn : String) (patch : Patch) (tags : List String × List String) : List Cloud.Call :=
  (if patch.isEmpty then [] else [.controller (.updateInstance id patch)]) ++
  (if tags.1.isEmpty then [] else [.controller (.attachTags crn tags.1)]) ++
  (if tags.2.isEmpty then [] else [.controller (.detachTags crn tags.2)])

/-- The calls that an update of the instance makes when none of them fails. -/
def due (c : Host) (p : Parameters) (s : Remote) : List Cloud.Call :=
  match (p.patch s).run c.catalog with
  | .error _ => []
  | .ok patch => sends c.id s.crn patch (p.tagChanges s)

theorem due_eq (h : Lists c.catalog p s plan planId) :
    due c p s = sends c.id s.crn (p.patchFor s plan planId) (p.tagChanges s) := by
  unfold due
  rw [run_patch h]

theorem run_planName {service id : String} (hs : service ≠ "") {catalog : Catalog.Answers}
    (h : id ≠ "" → catalog (.planName service id) = .ok plan) (hempty : id = "" → plan = "") :
    (planName service id).run catalog = .ok plan := by
  unfold planName
  by_cases hid : id = ""
  · rw [hempty hid, hid]
    rfl
  · have hboth : ¬ (id.isEmpty || service.isEmpty) = true := by
      simp [hid, hs]
    rw [if_neg hboth]
    show Except.mapError _ (catalog (.planName service id)) = _
    rw [h hid]
    rfl

/-- The catalog has what the update needs. -/
theorem Updatable.lists (h : Updatable c p s) :
    ∃ plan planId, Lists c.catalog p s plan planId := by
  have hplan : ∃ plan, (planName p.serviceName s.resourcePlanId).run c.catalog = .ok plan := by
    by_cases hid : s.resourcePlanId = ""
    · exact ⟨"", run_planName h.service (fun hne => absurd hid hne) fun _ => rfl⟩
    · obtain ⟨plan, hplan⟩ := h.named hid
      exact ⟨plan, run_planName h.service (fun _ => hplan) fun he => absurd he hid⟩
  have hfound : ∃ planId, p.resourcePlanName ≠ "" →
      c.catalog (.planId p.serviceName p.resourcePlanName) = .ok planId := by
    by_cases hname : p.resourcePlanName = ""
    · exact ⟨"", fun hne => absurd hname hne⟩
    · obtain ⟨planId, hfound⟩ := h.found hname
      exact ⟨planId, fun _ => hfound⟩
  obtain ⟨plan, hplan⟩ := hplan
  obtain ⟨planId, hfound⟩ := hfound
  exact ⟨plan, planId, hplan, hfound⟩

/-- A plan that disagrees is a plan that is declared, so the catalog has it by name and by id. -/
theorem Updatable.plan_listed (h : Updatable c p s) (hl : Lists c.catalog p s plan planId)
    (hf : Field.plan ∈ p.changedFieldsWith s plan) :
    planId ≠ "" ∧ c.catalog (.planName p.serviceName planId) = .ok p.resourcePlanName := by
  have hset : p.resourcePlanName ≠ "" := by
    intro he
    exact (mem_changedFieldsWith .plan).mp hf fun hne => absurd he hne
  exact h.inverse planId (hl.found hset)

/-- What the update relies on is there after it was applied. -/
theorem Updatable.patched (h : Updatable c p s) (hl : Lists c.catalog p s plan planId) :
    Updatable c p (s.patched c.uptake (p.patchFor s plan planId)) where
  service := h.service
  present := h.present
  members := h.members
  named := by
    rw [planId_patched]
    by_cases hf : Field.plan ∈ p.changedFieldsWith s plan
    · rw [if_pos hf]
      exact fun _ => ⟨_, (h.plan_listed hl hf).2⟩
    · rw [if_neg hf]
      exact h.named
  found := h.found
  inverse := h.inverse

/-- The plan after the update is the one that is declared if it had to change. -/
theorem Lists.patched (h : Updatable c p s) (hl : Lists c.catalog p s plan planId) :
    Lists c.catalog p (s.patched c.uptake (p.patchFor s plan planId))
      (if Field.plan ∈ p.changedFieldsWith s plan then p.resourcePlanName else plan) planId where
  named := by
    rw [planId_patched]
    by_cases hf : Field.plan ∈ p.changedFieldsWith s plan
    · rw [if_pos hf, if_pos hf]
      obtain ⟨hid, hname⟩ := h.plan_listed hl hf
      exact run_planName h.service (fun _ => hname) fun he => absurd he hid
    · rw [if_neg hf, if_neg hf]
      exact hl.named
  found := hl.found

/-- An update of the instance that was applied leaves the tags to be changed. -/
theorem due_patched (h : Updatable c p s) (hl : Lists c.catalog p s plan planId) :
    due c p (s.patched c.uptake (p.patchFor s plan planId)) =
      sends c.id s.crn [] (p.tagChanges s) := by
  have hnil : p.patchFor (s.patched c.uptake (p.patchFor s plan planId))
      (if Field.plan ∈ p.changedFieldsWith s plan then p.resourcePlanName else plan) planId = [] :=
    patchFor_eq_nil_iff.mpr fun f htags => agrees_patched h.members htags
  rw [due_eq (hl.patched h), hnil]
  rfl

/-- Where all agrees but the tags, other tags leave only tags to be changed. -/
theorem due_withTags (hl : Lists c.catalog p s plan planId) (hp : p.patchFor s plan planId = [])
    (tags : List String) :
    due c p (s.withTags tags) = sends c.id s.crn [] (p.tagChanges (s.withTags tags)) := by
  have hl' : Lists c.catalog p (s.withTags tags) plan planId := ⟨hl.named, hl.found⟩
  have hnil : p.patchFor (s.withTags tags) plan planId = [] := by
    refine patchFor_eq_nil_iff.mpr fun f htags => ?_
    have hbefore : f.Agrees p s plan := patchFor_eq_nil_iff.mp hp f htags
    cases f with
    | tags => exact absurd rfl htags
    | _ => exact hbefore
  rw [due_eq hl', hnil]
  rfl

theorem Updatable.withTags (h : Updatable c p s) (tags : List String) :
    Updatable c p (s.withTags tags) :=
  { h with present := h.present, named := h.named }

/-- **A call that takes effect leaves the others.** -/
theorem due_step (h : Updatable c p s) (hd : due c p s = call :: rest) :
    Updatable c p (c.effect call s) ∧ due c p (c.effect call s) = rest := by
  obtain ⟨plan, planId, hl⟩ := h.lists
  rw [due_eq hl] at hd
  by_cases hp : p.patchFor s plan planId = []
  · rw [hp] at hd
    by_cases hattach : (p.tagChanges s).1 = []
    · by_cases hdetach : (p.tagChanges s).2 = []
      · simp [sends, hattach, hdetach] at hd
      · -- only tags to detach are left
        have hsent : sends c.id s.crn [] (p.tagChanges s) =
            [.controller (.detachTags s.crn (p.tagChanges s).2)] := by
          simp [sends, hattach, hdetach]
        obtain ⟨rfl, rfl⟩ := List.cons.inj (hsent.symm.trans hd)
        have heffect : c.effect (.controller (.detachTags s.crn (p.tagChanges s).2)) s =
            s.withTags (s.tags.filter fun t => !(p.tagChanges s).2.contains t) := if_pos rfl
        rw [heffect]
        refine ⟨h.withTags _, ?_⟩
        rw [due_withTags hl hp]
        unfold Remote.withTags
        rw [tagChanges_detached hattach]
        rfl
    · have hsent : sends c.id s.crn [] (p.tagChanges s) =
          .controller (.attachTags s.crn (p.tagChanges s).1) ::
            sends c.id s.crn [] ([], (p.tagChanges s).2) := by
        simp [sends, hattach]
      obtain ⟨rfl, rfl⟩ := List.cons.inj (hsent.symm.trans hd)
      have heffect : c.effect (.controller (.attachTags s.crn (p.tagChanges s).1)) s =
          s.withTags (s.tags ++ (p.tagChanges s).1) := if_pos rfl
      rw [heffect]
      refine ⟨h.withTags _, ?_⟩
      rw [due_withTags hl hp]
      unfold Remote.withTags
      rw [tagChanges_attached]
  · have hsent : sends c.id s.crn (p.patchFor s plan planId) (p.tagChanges s) =
        .controller (.updateInstance c.id (p.patchFor s plan planId)) ::
          sends c.id s.crn [] (p.tagChanges s) := by
      simp [sends, hp]
    obtain ⟨rfl, rfl⟩ := List.cons.inj (hsent.symm.trans hd)
    have heffect : c.effect (.controller (.updateInstance c.id (p.patchFor s plan planId))) s =
        s.patched c.uptake (p.patchFor s plan planId) := if_pos rfl
    rw [heffect]
    exact ⟨h.patched hl, due_patched h hl⟩

/-- So the calls that take effect leave the others, however many they are. -/
theorem due_effects (h : Updatable c p s) (hd : due c p s = done ++ rest) :
    Updatable c p (c.effects done s) ∧ due c p (c.effects done s) = rest := by
  induction done generalizing s with
  | nil => exact ⟨h, hd⟩
  | cons call later ih =>
    obtain ⟨hnext, hleft⟩ := due_step h hd
    exact ih hnext hleft

/-- Where no call is due, nothing disagrees. -/
theorem settled_of_due_nil (h : Updatable c p s) (hd : due c p s = []) :
    (p.changedFields s).run c.catalog = .ok [] ∧ p.tagChanges s = ([], []) := by
  obtain ⟨plan, planId, hl⟩ := h.lists
  rw [due_eq hl] at hd
  have hp : p.patchFor s plan planId = [] := by
    by_contra hp
    simp [sends, hp] at hd
  have hattach : (p.tagChanges s).1 = [] := by
    by_contra hattach
    simp [sends, hattach] at hd
  have hdetach : (p.tagChanges s).2 = [] := by
    by_contra hdetach
    simp [sends, hdetach] at hd
  have htags : p.tagChanges s = ([], []) := Prod.ext hattach hdetach
  have hagrees : ∀ f : Field, f.Agrees p s plan := by
    intro f
    by_cases hf : f = .tags
    · rw [hf]
      exact tagChanges_eq_nil_iff.mp htags
    · exact patchFor_eq_nil_iff.mp hp f hf
  have hchanged : p.changedFieldsWith s plan = [] :=
    List.eq_nil_iff_forall_not_mem.mpr fun f hf => (mem_changedFieldsWith f).mp hf (hagrees f)
  refine ⟨?_, htags⟩
  rw [run_changedFields hl.named, hchanged]

end ResourceOperator.ResourceInstance
