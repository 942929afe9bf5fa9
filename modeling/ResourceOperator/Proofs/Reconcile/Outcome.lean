import ResourceOperator.Proofs.Condition
import ResourceOperator.Proofs.Reconcile.Gate
import ResourceOperator.Proofs.Reconcile.Trace

/-!
# How `sync` ends

The reconciliation of a wanted resource runs `sync` and then publishes the status, whatever has
become of it. `Ends` is what carries this: as long as a task goes on, no call has failed, and when it
ends in a failure, that is the failure of its last call. A resource waits where its references were
resolved and left fields pending (`pendingFields`).

Results:
* `ends_bind` and one lemma for each way to build a task.
* `ends_sync`: a failed call is the last one of `sync`, which publishes no status itself. What it
  leaves on success is a matter of the pending fields and of whether it has created (`Concluded`).
* `Ends.failed_call`, `Ends.failed_result`: both directions of this, said of the log of a run.
-/

namespace ResourceOperator

open Dialogue

variable {k : Kind}

/-- The failure of an operation, as one of the reconciliation. -/
def Outcome.failure? {α : Type} (o : Outcome k α) : Option ReconcileError :=
  match o.result with
  | .ok _ => none
  | .error e => some (.engine e)

namespace Reconcile

open ResourceOperator.Task

/-- How a call has failed, unless it has not. -/
def failure? : Exchange (Lifecycle k) → Option ReconcileError
  | ⟨.resolveReferences _, o⟩ => Outcome.failure? o
  | ⟨.observe _, o⟩ => Outcome.failure? o
  | ⟨.create _, o⟩ => Outcome.failure? o
  | ⟨.update _, o⟩ => Outcome.failure? o
  | ⟨.delete _, o⟩ => Outcome.failure? o
  | ⟨.cluster _, .error e⟩ => some e
  | ⟨.cluster _, .ok _⟩ => none
  | ⟨.record _, _⟩ => none

/-- The fields that a resolution of references leaves pending. -/
def pendingIn : Exchange (Lifecycle k) → List String
  | ⟨.resolveReferences _, ⟨.ok resolved, _⟩⟩ => resolved.pending
  | _ => []

/-- The fields that the resolution of references has left pending. -/
def pendingFields (log : History k) : List String :=
  log.flatMap pendingIn

/-- The remote object is created. -/
def creates : Exchange (Lifecycle k) → Bool
  | ⟨.create _, ⟨.ok _, _⟩⟩ => true
  | _ => false

/-- The remote object has been created. -/
def hasCreated (log : History k) : Bool :=
  log.any creates

/-- The call publishes the status. -/
def publishes : LifecycleCall k → Bool
  | .cluster (.patchStatus _ _) => true
  | _ => false

/-! ## Tasks that end at the first failure -/

/-- No call has failed. -/
def Smooth (past : History k) : Prop :=
  ∀ x ∈ past, failure? x = none

/-- The last call has failed, in this way. -/
def FailedLast (log : History k) (e : ReconcileError) : Prop :=
  ∃ before x, log = before ++ [x] ∧ failure? x = some e

/-- What `sync` may ask: anything but to publish the status, as long as no call has failed. -/
def Unbroken (past : History k) (q : LifecycleCall k) : Prop :=
  Smooth past ∧ publishes q = false

/-- Where a task has succeeded no call has failed; where it has failed, the last one has. -/
def Ended {α : Type} (post : History k → α → Managed k → Prop) (past : History k) :
    Except ReconcileError α × Managed k → Prop
  | (.ok a, r) => Smooth past ∧ post past a r
  | (.error e, _) => FailedLast past e

/-- A task that ends at the first failure, and in the postcondition when there is none. -/
def Ends {α : Type} (t : Task k α) (past : History k) (r : Managed k)
    (post : History k → α → Managed k → Prop) : Prop :=
  (t r).Ensures (watch Unbroken) (Ended post) past

section Ends

variable {α β : Type} {past : History k} {r : Managed k} {post : History k → α → Managed k → Prop}

theorem smooth_nil : Smooth ([] : History k) := fun _ h => absurd h List.not_mem_nil

theorem Smooth.append (h : Smooth past) {x : Exchange (Lifecycle k)} (hx : failure? x = none) :
    Smooth (past ++ [x]) := by
  intro y hy
  rcases List.mem_append.mp hy with hy | hy
  · exact h y hy
  · rw [List.mem_singleton.mp hy]
    exact hx

theorem ends_pure {a : α} (h : Smooth past) (hp : post past a r) : Ends (pure a) past r post :=
  ⟨h, hp⟩

theorem ends_modify {f : Managed k → Managed k} {post : History k → Unit → Managed k → Prop}
    (h : Smooth past) (hp : post past () (f r)) : Ends (modify f) past r post :=
  ⟨h, hp⟩

theorem ends_bind (post : History k → α → Managed k → Prop) {t : Task k α} {f : α → Task k β}
    {post' : History k → β → Managed k → Prop} (ht : Ends t past r post)
    (hf : ∀ past a r, Smooth past → post past a r → Ends (f a) past r post') :
    Ends (t >>= f) past r post' := by
  refine (ensures_bind t f).mpr (Ensures.mono (monotone_watch _) ?_ ht)
  rintro past ⟨e | a, left⟩ h
  · exact h
  · exact hf past a left h.1 h.2

/-- A write that does not publish the status. -/
theorem ends_write {call : Managed k → Option Cluster.Call}
    {post : History k → Unit → Managed k → Prop} (h : Smooth past)
    (hc : ∀ c, call r = some c → publishes (k := k) (.cluster c) = false)
    (hp : post (past ++ written (call r)) () r) : Ends (write call) past r post := by
  rw [Ends, ensures_write]
  cases hcall : call r with
  | none => exact ⟨h, by simpa [hcall, written] using hp⟩
  | some c =>
    refine ⟨⟨h, hc c hcall⟩, fun answer => ?_⟩
    cases answer with
    | error e => exact ⟨past, _, rfl, rfl⟩
    | ok _ => exact ⟨h.append rfl, by simpa [hcall, written] using hp⟩

/-- An operation, by its outcome. -/
theorem ended_outcome {x : Exchange (Lifecycle k)} {o : Outcome k α}
    (hx : failure? x = o.failure?) (h : Smooth past)
    (hp : ∀ a, o.result = .ok a → post (past ++ [x]) a o.resource) :
    Settled (Ended post) (past ++ [x]) o := by
  obtain ⟨e | a, left⟩ := o
  · exact ⟨past, x, rfl, hx⟩
  · exact ⟨h.append hx, hp a rfl⟩

theorem ends_resolveReferences {post : History k → Resolved → Managed k → Prop} (h : Smooth past)
    (hp : ∀ resolved left,
      post (past ++ [⟨.resolveReferences r, ⟨.ok resolved, left⟩⟩]) resolved left) :
    Ends resolveReferences past r post := by
  refine ⟨⟨h, rfl⟩, fun ⟨result, left⟩ => ended_outcome rfl h fun resolved e => ?_⟩
  obtain rfl : result = .ok resolved := e
  exact hp resolved left

theorem ends_observe {post : History k → Observed → Managed k → Prop} (h : Smooth past)
    (hp : ∀ observed left, post (past ++ [⟨.observe r, ⟨.ok observed, left⟩⟩]) observed left) :
    Ends observe past r post := by
  refine ⟨⟨h, rfl⟩, fun ⟨result, left⟩ => ended_outcome rfl h fun observed e => ?_⟩
  obtain rfl : result = .ok observed := e
  exact hp observed left

theorem ends_create {post : History k → Created → Managed k → Prop} (h : Smooth past)
    (hp : ∀ created left, post (past ++ [⟨.create r, ⟨.ok created, left⟩⟩]) created left) :
    Ends create past r post := by
  refine ⟨⟨h, rfl⟩, fun ⟨result, left⟩ => ended_outcome rfl h fun created e => ?_⟩
  obtain rfl : result = .ok created := e
  exact hp created left

theorem ends_update {post : History k → Unit → Managed k → Prop} (h : Smooth past)
    (hp : ∀ left, post (past ++ [⟨.update r, ⟨.ok (), left⟩⟩]) () left) :
    Ends update past r post := by
  refine ⟨⟨h, rfl⟩, fun ⟨result, left⟩ => ended_outcome rfl h fun _ e => ?_⟩
  obtain rfl : result = .ok () := e
  exact hp left

/-- A failed call of a run is its last one, and the run fails as it did. -/
theorem Ends.failed_call {t : Task k α} (h : Ends t [] r post) {log : History k}
    {result : Except ReconcileError α} {left : Managed k} (run : Run (t r) log (result, left))
    {before after : History k} {x : Exchange (Lifecycle k)} (e : log = before ++ x :: after)
    {failure : ReconcileError} (hx : failure? x = some failure) :
    after = [] ∧ result = .error failure := by
  cases after with
  | cons y rest =>
    have e' : log = (before ++ [x]) ++ y :: rest := by
      rw [e, List.append_assoc]
      rfl
    have hsmooth := (run.allowed_of_ensures h e').1
    rw [hsmooth x (List.mem_append_right _ (List.mem_singleton.mpr rfl))] at hx
    cases hx
  | nil =>
    have hend := run.post_of_ensures h
    cases result with
    | ok a =>
      rw [hend.1 x (e ▸ List.mem_append_right _ List.mem_cons_self)] at hx
      cases hx
    | error failure' =>
      obtain ⟨before', x', e', hx'⟩ := hend
      obtain ⟨-, hsame⟩ := List.append_inj' (e.symm.trans e') rfl
      obtain rfl : x = x' := (List.cons.inj hsame).1
      exact ⟨rfl, congrArg _ (Option.some.inj (hx'.symm.trans hx))⟩

/-- The failure of a run is the one of its last call. -/
theorem Ends.failed_result {t : Task k α} (h : Ends t [] r post) {log : History k}
    {failure : ReconcileError} {left : Managed k} (run : Run (t r) log (.error failure, left)) :
    FailedLast log failure :=
  run.post_of_ensures h

end Ends

/-! ## What a log tells -/

section Logs

variable {log : History k}

@[simp] theorem pendingFields_append (log more : History k) :
    pendingFields (log ++ more) = pendingFields log ++ pendingFields more := List.flatMap_append

@[simp] theorem hasCreated_append (log more : History k) :
    hasCreated (log ++ more) = (hasCreated log || hasCreated more) := List.any_append

@[simp] theorem pendingFields_nil : pendingFields ([] : History k) = [] := rfl

@[simp] theorem hasCreated_nil : hasCreated ([] : History k) = false := rfl

@[simp] theorem pendingFields_singleton (x : Exchange (Lifecycle k)) :
    pendingFields [x] = pendingIn x := List.flatMap_singleton ..

@[simp] theorem hasCreated_singleton (x : Exchange (Lifecycle k)) :
    hasCreated [x] = creates x := Bool.or_false _

@[simp] theorem pendingFields_written (call : Option Cluster.Call) :
    pendingFields (k := k) (written call) = [] := by
  cases call <;> rfl

@[simp] theorem hasCreated_written (call : Option Cluster.Call) :
    hasCreated (k := k) (written call) = false := by
  cases call <;> rfl

end Logs

/-! ## The end of `sync` -/

/-- The condition that a reconciliation notes when it succeeds, by what is pending. -/
def verdict (context : Context) (pending : List String) : Condition :=
  if pending.isEmpty then .reconcileSuccess context.now
  else .reconcileError (pendingMessage pending) context.now

/-- When a reconciliation that succeeded is due again: soon while it waits or has created. -/
def interval (context : Context) (log : History k) : Nat :=
  if (pendingFields log).isEmpty && !hasCreated log then context.requeue else context.errorRequeue

/-- What `sync` leaves where it succeeds. -/
def Concluded (context : Context) (past : History k) (action : Action) (left : Managed k) : Prop :=
  action = .requeue (interval context past) ∧ left.Shows (verdict context (pendingFields past))

/-- No field is pending, and the remote object has been created, or has not. -/
def Underway (created : Bool) (past : History k) : Prop :=
  pendingFields past = [] ∧ hasCreated past = created

/-- A write leaves that as it is. -/
theorem Underway.written {created : Bool} {past : History k} (h : Underway created past)
    (call : Option Cluster.Call) : Underway created (past ++ Reconcile.written call) :=
  ⟨by simp [h.1], by simp [h.2]⟩

section Sync

variable {context : Context} {name : String} {past : History k} {r : Managed k}

theorem ends_storeDesired {post : History k → Unit → Managed k → Prop} (due : Bool)
    (h : Smooth past) (hp : post (past ++ written (storeCall due name r)) () r) :
    Ends (when due (storeDesired name)) past r post := by
  rw [storeDesired, when_write]
  refine ends_write h (fun c hc => ?_) hp
  split at hc <;> cases hc
  rfl

theorem ends_publishDetails {post : History k → Unit → Managed k → Prop} {details : Table String}
    (h : Smooth past) (hp : post (past ++ written (detailsCall details r)) () r) :
    Ends (publishDetails details) past r post := by
  refine ends_write h (fun c hc => ?_) hp
  obtain ⟨secret, rfl⟩ := exists_secret_of_detailsCall hc
  rfl

/-- The end of a task that notes a condition and asks to be run again. -/
theorem ends_noted {c : Condition} {action : Action} (h : Smooth past)
    (ha : action = .requeue (interval context past))
    (hc : c = verdict context (pendingFields past)) :
    Ends (modify (Managed.setCondition c) >>= fun _ => pure action) past r
      (Concluded context) := by
  refine ends_bind (fun p _ left => p = past ∧ left.Shows c)
    (ends_modify h ⟨rfl, Managed.shows_setCondition r c⟩) fun p _ left hs hp => ?_
  obtain ⟨rfl, hshows⟩ := hp
  exact ends_pure hs ⟨ha, hc ▸ hshows⟩

theorem ends_await {fields : List String} (h : Smooth past) (hf : fields.isEmpty = false)
    (hp : pendingFields past = fields) :
    Ends (await context fields) past r (Concluded context) := by
  refine ends_noted h ?_ ?_
  · simp [interval, hp, hf]
  · simp [verdict, hp, hf]

theorem ends_syncAbsent (h : Smooth past) (hp : pendingFields past = []) :
    Ends (syncAbsent context name) past r (Concluded context) := by
  -- from the creation on, the log shows it
  refine ends_bind (fun p _ _ => Underway true p) (ends_create h fun created left => ?_)
    fun p created left hs hu => ?_
  · exact ⟨by simp [hp, pendingIn], by simp [creates]⟩
  refine ends_bind (fun p _ _ => Underway true p) (ends_storeDesired true hs (hu.written _))
    fun p _ left hs hu => ?_
  refine ends_bind (fun p _ _ => Underway true p) (ends_publishDetails hs (hu.written _))
    fun p _ left hs hu => ?_
  refine ends_noted hs ?_ ?_
  · simp [interval, hu.1, hu.2]
  · simp [verdict, hu.1]

theorem ends_syncPresent {observed : Observed} (h : Smooth past) (hu : Underway false past) :
    Ends (syncPresent context name observed) past r (Concluded context) := by
  rw [syncPresent_eq]
  refine ends_bind (fun p _ _ => Underway false p) (ends_storeDesired _ h (hu.written _))
    fun p _ left hs hu => ?_
  refine ends_bind (fun p _ _ => Underway false p) (ends_publishDetails hs (hu.written _))
    fun p _ left hs hu => ?_
  refine ends_bind (fun p _ _ => Underway false p) ?_ fun p _ left hs hu => ?_
  · cases observed.upToDate with
    | true => exact ends_pure hs hu
    | false =>
      exact ends_update hs fun left => ⟨by simp [hu.1, pendingIn], by simp [hu.2, creates]⟩
  refine ends_noted hs ?_ ?_
  · simp [interval, hu.1, hu.2]
  · simp [verdict, hu.1]

/-- A failed call is the last one of `sync`. Where none has failed, it is due again by what was
pending and by whether it has created, and it notes what was pending. -/
theorem ends_sync (context : Context) (name : String) (r : Managed k) :
    Ends (sync context name) [] r (Concluded context) := by
  rw [sync_eq]
  refine ends_bind (fun p resolved _ => pendingFields p = resolved.pending ∧
    hasCreated p = false) (ends_resolveReferences smooth_nil fun resolved left => ?_)
    fun p resolved left hs hp => ?_
  · exact ⟨by simp [pendingIn], rfl⟩
  refine ends_bind (fun p _ _ => pendingFields p = resolved.pending ∧
    hasCreated p = false) (ends_storeDesired _ hs ?_) fun p _ left hs hp => ?_
  · exact ⟨by simp [hp.1], by simp [hp.2]⟩
  cases he : resolved.pending.isEmpty with
  | false => exact ends_await hs he hp.1
  | true =>
    have hnone : resolved.pending = [] := List.isEmpty_iff.mp he
    refine ends_bind (fun p _ _ => Underway false p)
      (ends_observe hs fun observed left => ?_) fun p observed left hs hp => ?_
    · exact ⟨by simp [hp.1, hnone, pendingIn], by simp [hp.2, creates]⟩
    cases observed.present with
    | true => exact ends_syncPresent hs hp
    | false => exact ends_syncAbsent hs hp.1

end Sync

end Reconcile

end ResourceOperator
