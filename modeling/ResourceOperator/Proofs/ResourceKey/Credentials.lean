import Mathlib.Data.Option.Basic
import ResourceOperator.Proofs.Lockstep
import ResourceOperator.Proofs.ResourceKey.Templates

/-!
# Where the credentials of a key go

The credentials of a key are for its connection details. Two of their members have a further use: the
admin URL is recorded in the status, and the role fills in one that is not declared. Keys that differ
in nothing but their credentials, and not in these two members, are alike (`Alike`): whatever is made
of one of them is made of the other as well, but for the connection details.

So are the operations on keys. Each of them asks the same questions as long as the keys that it is
answered with are alike, and leaves the same resource. An observation or a creation ends in the same
result but for the connection details, the others end in the same result. This is so whatever the
connection details are made of, and so whether the templates can be rendered or not: a template that
cannot be rendered leads to no details, and to nothing else.

Times are compared apart, since two operations need not be carried out at once: conditions are the
same up to a time that was noted by the one and by the other (`Condition.Retimed`).

Results:
* `Alike.observation`, `Alike.lateInitialize`, `Alike.patch` and their like: what does not depend on
  the credentials.
* `lockstep_observeWith`, `lockstep_createWith`, `lockstep_update`, `lockstep_delete`,
  `lockstep_resolveReferences`: the operations on keys that are alike.
-/

namespace ResourceOperator

open Dialogue

/-! ## The same but for the time -/

/-- The same condition, or one that was noted at one time and at another. -/
inductive Condition.Retimed (now now' : String) : Condition → Condition → Prop where
  | kept (c : Condition) : Retimed now now' c c
  | fresh (c : Condition) :
    Retimed now now' { c with lastTransitionTime := some now }
      { c with lastTransitionTime := some now' }

/-- The same status, but for the times of its conditions. -/
structure Status.Retimed {k : Kind} (now now' : String) (s s' : Status k) : Prop where
  atProvider : s'.atProvider = s.atProvider
  conditions : List.Forall₂ (Condition.Retimed now now') s.conditions s'.conditions

/-- The same resource, but for the times of its conditions. -/
structure Managed.Retimed {k : Kind} (now now' : String) (r r' : Managed k) : Prop where
  metadata : r'.metadata = r.metadata
  spec : r'.spec = r.spec
  status : Option.Rel (Status.Retimed now now') r.status r'.status

section Retimed

variable {k : Kind} {now now' : String} {c c' : Condition}

theorem Condition.Retimed.eq (h : Condition.Retimed now now c c') : c' = c := by
  cases h <;> rfl

theorem Condition.Retimed.aspect (h : Condition.Retimed now now' c c') :
    c'.aspect = c.aspect := by
  cases h <;> rfl

/-- The time does not count when conditions are compared. -/
theorem Condition.Retimed.equivalent (h : Condition.Retimed now now' c c') (other : Condition) :
    other.equivalent c' = other.equivalent c := by
  cases h <;> rfl

theorem Condition.retimed_self (conditions : List Condition) :
    List.Forall₂ (Condition.Retimed now now') conditions conditions :=
  List.forall₂_same.mpr fun c _ => .kept c

theorem Condition.Retimed.set (h : Condition.Retimed now now' c c') (conditions : List Condition) :
    List.Forall₂ (Condition.Retimed now now') (c.set conditions) (c'.set conditions) := by
  induction conditions with
  | nil => exact .cons h .nil
  | cons head rest ih =>
    unfold Condition.set
    rw [h.aspect, h.equivalent]
    by_cases haspect : head.aspect = c.aspect
    · rw [if_pos haspect, if_pos haspect]
      by_cases hsame : head.equivalent c = true
      · rw [if_pos hsame, if_pos hsame]
        exact retimed_self _
      · rw [if_neg hsame, if_neg hsame]
        exact .cons h (retimed_self rest)
    · rw [if_neg haspect, if_neg haspect]
      exact .cons (.kept head) ih

theorem Managed.Retimed.refl (r : Managed k) : Managed.Retimed now now' r r where
  metadata := rfl
  spec := rfl
  status := by
    cases r.status with
    | none => exact .none
    | some s => exact .some ⟨rfl, Condition.retimed_self s.conditions⟩

/-- At one time the resources are equal. -/
theorem Managed.Retimed.eq {r r' : Managed k} (h : Managed.Retimed now now r r') : r' = r := by
  obtain ⟨metadata, spec, status⟩ := r
  obtain ⟨metadata', spec', status'⟩ := r'
  obtain ⟨rfl, rfl, hstatus⟩ := h
  have heq : status' = status := by
    cases hstatus with
    | none => rfl
    | @some s s' hs =>
      obtain ⟨atProvider, conditions⟩ := s
      obtain ⟨atProvider', conditions'⟩ := s'
      obtain ⟨rfl, hconditions⟩ := hs
      have hsame : List.Forall₂ Eq conditions' conditions :=
        hconditions.flip.imp fun _ _ => Condition.Retimed.eq
      rw [List.forall₂_eq_eq_eq] at hsame
      rw [hsame]
  rw [heq]

theorem Managed.retimed_setCondition (h : Condition.Retimed now now' c c') (r : Managed k) :
    Managed.Retimed now now' (r.setCondition c) (r.setCondition c') where
  metadata := rfl
  spec := rfl
  status := .some ⟨rfl, h.set _⟩

end Retimed

/-! ## Results -/

/-- The same failure, or values that are related. -/
inductive ResultsAlike {ε α β : Type} (related : α → β → Prop) :
    Except ε α → Except ε β → Prop where
  | ok {a : α} {b : β} (h : related a b) : ResultsAlike related (.ok a) (.ok b)
  | error (e : ε) : ResultsAlike related (.error e) (.error e)

/-- Outcomes that are alike, at one time and at another. -/
structure Outcome.Alike {k : Kind} {α : Type} (now now' : String) (related : α → α → Prop)
    (o o' : Outcome k α) : Prop where
  result : ResultsAlike related o.result o'.result
  resource : Managed.Retimed now now' o.resource o'.resource

/-- Observations that are equal but for the connection details. -/
def Observed.Alike (a a' : Observed) : Prop :=
  { a with connectionDetails := a'.connectionDetails } = a'

theorem Observed.Alike.present {a a' : Observed} (h : Observed.Alike a a') :
    a'.present = a.present :=
  (congrArg Observed.present h).symm

/-- Creations yield nothing but connection details. -/
def Created.Alike (a a' : Created) : Prop :=
  { a with connectionDetails := a'.connectionDetails } = a'

namespace ResourceKey

/-! ## Keys that are alike -/

/-- Two keys that differ in their credentials only, and there not in the two members that have a
further use. -/
structure Alike (k k' : Remote) : Prop where
  rest : { k with credentials := k'.credentials } = k'
  kafkaAdminUrl : k'.credential "kafka_admin_url" = k.credential "kafka_admin_url"
  role : k'.credential "iam_role_crn" = k.credential "iam_role_crn"

namespace Alike

theorem refl (k : Remote) : Alike k k := ⟨rfl, rfl, rfl⟩

variable {k k' : Remote} (h : Alike k k')

include h

theorem state : k'.state = k.state := by
  rw [← h.rest]

theorem id : k'.id = k.id := by
  rw [← h.rest]

theorem observation : k'.observation = k.observation := by
  unfold Remote.observation
  rw [h.kafkaAdminUrl, ← h.rest]

theorem lateInitialize (p : Parameters) : p.lateInitialize k' = p.lateInitialize k := by
  unfold Parameters.lateInitialize
  rw [h.role, ← h.rest]

theorem changedFields (p : Parameters) : p.changedFields k' = p.changedFields k := by
  have hname : k'.parameters.name = k.parameters.name := by
    show k'.name = k.name
    rw [← h.rest]
  unfold Parameters.changedFields
  rw [hname]

theorem isUpToDate (p : Parameters) : p.isUpToDate k' = p.isUpToDate k := by
  unfold Parameters.isUpToDate
  rw [h.changedFields]

theorem patch (p : Parameters) : p.patch k' = p.patch k := by
  unfold Parameters.patch
  rw [h.changedFields]

end Alike

end ResourceKey

/-! ## The operations -/

/-- The keys that a call to the cloud yields are alike, and all else is equal. -/
def Outside.Alike : Likeness Outside
  | .cloud (.controller (.getKey _)), answer, answer' =>
    ResultsAlike ResourceKey.Alike answer answer'
  | .cloud (.controller (.createKey _)), answer, answer' =>
    ResultsAlike ResourceKey.Alike answer answer'
  | .cloud (.controller (.updateKey _ _)), answer, answer' =>
    ResultsAlike ResourceKey.Alike answer answer'
  | _, answer, answer' => answer = answer'

theorem ResultsAlike.refl {ε α : Type} {related : α → α → Prop} (h : ∀ a, related a a) :
    ∀ result : Except ε α, ResultsAlike related result result
  | .ok a => .ok (h a)
  | .error e => .error e

/-- Equal answers are alike. -/
theorem Outside.Alike.refl (q : OutsideCall) (answer : Outside.Answer q) :
    Outside.Alike q answer answer := by
  have keys (answer : Except Cloud.Failure ResourceKey.Remote) :
      ResultsAlike ResourceKey.Alike answer answer := .refl ResourceKey.Alike.refl answer
  cases q with
  | lookup k call => rfl
  | cloud call =>
    cases call with
    | controller call =>
      cases call with
      | getKey _ | createKey _ | updateKey _ _ => exact keys answer
      | _ => rfl
    | _ => rfl

/-- What is looked up of declared objects is equal. -/
theorem Outside.lockstep_ofLookup {k : Kind} {α : Type} (d : Dialogue (Lookup k) α) :
    Lockstep Outside.Alike Eq (Outside.ofLookup d) (Outside.ofLookup d) := by
  have hsame : Lockstep (fun _ => Eq) Eq d d := Lockstep.refl (fun _ _ _ => id) d
  exact hsame.forward fun q => Lockstep.call (I := Outside) (.lookup k q)

/-- What follows a call to the cloud is in step if it is from answers that are alike on. -/
theorem Outside.lockstep_cloud {α β : Type} {post : α → β → Prop} {call : Cloud.Call}
    {f : Except Cloud.Failure call.Result → Dialogue Outside α}
    {f' : Except Cloud.Failure call.Result → Dialogue Outside β}
    (h : ∀ answer answer', Outside.Alike (.cloud call) answer answer' →
      Lockstep Outside.Alike post (f answer) (f' answer')) :
    Lockstep Outside.Alike post (Outside.cloud call >>= f) (Outside.cloud call >>= f') :=
  .ask (I := Outside) (.cloud call) h

namespace ResourceKey

variable {now now' : String}

theorem lockstep_resolveReferences (r : Managed .resourceKey) :
    Lockstep Outside.Alike Eq (resolveReferences r) (resolveReferences r) := by
  refine (Outside.lockstep_ofLookup _).bind fun found _ => ?_
  rintro rfl
  cases found with
  | error e => exact .done rfl
  | ok found =>
    dsimp only
    split
    · exact .done rfl
    · exact .done rfl

/-- Keys that are alike are in the same state, so that both exist or none. -/
theorem lockstep_fetch (id : String) :
    Lockstep Outside.Alike (ResultsAlike (Option.Rel Alike)) (fetch id) (fetch id) := by
  refine Outside.lockstep_cloud fun answer answer' h => ?_
  cases h with
  | error e =>
    dsimp only
    split
    · exact .done (.ok .none)
    · exact .done (.error _)
  | @ok k k' h =>
    dsimp only
    rw [h.state]
    split
    · exact .done (.ok .none)
    · exact .done (.ok (.some h))

theorem retimed_recordRemote {k k' : Remote} (h : Alike k k') (r : Managed .resourceKey)
    (p : Parameters) :
    Managed.Retimed now now' (recordRemote now r k p) (recordRemote now' r k' p) := by
  have hready : Condition.Retimed now now' (k.state.readiness now) (k.state.readiness now') := by
    cases k.state with
    | active => exact .fresh (.available now)
    | removed => exact .fresh (.deleting now)
    | inactive | unknown => exact .fresh (.unavailable now)
  unfold recordRemote
  rw [h.state, h.observation]
  exact Managed.retimed_setCondition hready _

section Details

variable (details details' : Detailing)

/-- What is observed depends on the credentials in the connection details only. -/
theorem lockstep_observeWith (r : Managed .resourceKey) :
    Lockstep Outside.Alike (Outcome.Alike now now' Observed.Alike) (observeWith details now r)
      (observeWith details' now' r) := by
  unfold observeWith
  cases r.externalName with
  | none => exact .done ⟨.ok rfl, .refl r⟩
  | some id =>
    refine (lockstep_fetch id).bind fun found found' h => ?_
    cases h with
    | error e => exact .done ⟨.error e, .refl r⟩
    | ok h =>
      cases h with
      | none => exact .done ⟨.ok rfl, .refl r⟩
      | @some k k' h =>
        have hfilled := h.lateInitialize r.spec.forProvider
        refine .done ⟨.ok ?_, ?_⟩
        · show Observed.Alike _ _
          unfold Observed.Alike
          rw [hfilled, h.isUpToDate]
        · rw [hfilled]
          exact retimed_recordRemote h r _

/-- So does what a creation yields. -/
theorem lockstep_createWith (r : Managed .resourceKey) :
    Lockstep Outside.Alike (Outcome.Alike now now' Created.Alike) (createWith details now r)
      (createWith details' now' r) := by
  unfold createWith
  cases Parameters.request r.spec.forProvider with
  | error e => exact .done ⟨.error e, .refl r⟩
  | ok request =>
    refine Outside.lockstep_cloud fun answer answer' h => ?_
    cases h with
    | error e => exact .done ⟨.error _, .refl r⟩
    | @ok k k' h =>
      refine .done ⟨.ok rfl, ?_⟩
      rw [h.id]
      exact Managed.retimed_setCondition (.fresh (.creating now)) _

end Details

theorem lockstep_observe (r : Managed .resourceKey) :
    Lockstep Outside.Alike (Outcome.Alike now now' Observed.Alike) (observe now r)
      (observe now' r) :=
  lockstep_observeWith connectionDetails connectionDetails r

theorem lockstep_create (r : Managed .resourceKey) :
    Lockstep Outside.Alike (Outcome.Alike now now' Created.Alike) (create now r)
      (create now' r) :=
  lockstep_createWith connectionDetails connectionDetails r

theorem lockstep_update (r : Managed .resourceKey) :
    Lockstep Outside.Alike Eq (update r) (update r) := by
  unfold update
  cases r.externalName with
  | none => exact .done rfl
  | some id =>
    refine (lockstep_fetch id).bind fun found found' h => ?_
    cases h with
    | error e => exact .done rfl
    | ok h =>
      cases h with
      | none => exact .done rfl
      | @some k k' h =>
        dsimp only
        rw [h.patch]
        split
        · exact .done rfl
        · refine Outside.lockstep_cloud fun answer answer' h => ?_
          cases h <;> exact .done rfl

theorem lockstep_delete (now : String) (r : Managed .resourceKey) :
    Lockstep Outside.Alike Eq (delete now r) (delete now r) := by
  unfold delete
  dsimp only
  cases (r.setCondition (.deleting now)).externalName with
  | none => exact .done rfl
  | some id =>
    refine Outside.lockstep_cloud fun answer answer' h => ?_
    obtain rfl : answer = answer' := h
    cases answer with
    | ok _ => exact .done rfl
    | error e =>
      dsimp only
      split
      · exact .done rfl
      · exact .done rfl

end ResourceKey

end ResourceOperator
