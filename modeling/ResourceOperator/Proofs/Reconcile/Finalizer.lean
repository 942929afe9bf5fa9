import ResourceOperator.Proofs.Reconcile.Task

/-!
# The finalizer outlives the remote object

`Permitted r past q` says when the reconciliation of `r` may ask `q` after the exchanges `past`, as
far as deletion is concerned. An object that is deleted and carries the finalizer is observed and
deleted under the policy `delete` only; its finalizer goes when nothing is left to look after
(`Dispensable`) and its connection secret is deleted. An object that is not deleted keeps its
remote object, its secret and its finalizer.

Results:
* `permitted_release`, `permitted_tearDown`, `permitted_finalize`, `permitted_sync`: each part of a
  reconciliation asks what is permitted, whatever it is answered.
* `finalizer_released_only_when_dispensable`: the same of every run, said of its log.
-/

namespace ResourceOperator.Reconcile

open ResourceOperator.Dialogue ResourceOperator.Task

variable {k : Kind}

/-- Nothing remote is left to look after: the policy is to orphan it, or this run has observed that
it does not exist. `left` is the resource as that leaves it. -/
def Dispensable (r : Managed k) (past : History k) (left : Managed k) : Prop :=
  (r.spec.deletionPolicy = .orphan ∧ left = r) ∨
    ∃ observed : Observed, observed.present = false ∧ ⟨.observe r, ⟨.ok observed, left⟩⟩ ∈ past

/-- The connection secret that a resource names has been deleted. -/
def SecretDeleted (past : History k) (r : Managed k) : Prop :=
  ∀ secret, r.connectionSecret = some secret →
    ⟨.cluster (.deleteSecret secret), .ok ()⟩ ∈ past

/-- What the reconciliation of `r` may ask after `past`, as far as deletion is concerned. -/
def Permitted (r : Managed k) (past : History k) : LifecycleCall k → Prop
  | .resolveReferences _ => r.metadata.isDeleted = false
  | .create _ => r.metadata.isDeleted = false
  | .update _ => r.metadata.isDeleted = false
  | .observe _ =>
    r.metadata.isDeleted = true → hasFinalizer r = true ∧ r.spec.deletionPolicy = .delete
  | .delete _ =>
    r.metadata.isDeleted = true ∧ hasFinalizer r = true ∧ r.spec.deletionPolicy = .delete
  | .cluster (.deleteSecret _) => r.metadata.isDeleted = true ∧ hasFinalizer r = true
  | .cluster (.removeFinalizer _) =>
    (r.metadata.isDeleted = true ∧ hasFinalizer r = true) ∧
      ∃ left, Dispensable r past left ∧ SecretDeleted past left
  | .cluster _ => r.metadata.isDeleted = true → hasFinalizer r = true
  | .record _ => True

section Deleted

variable {r : Managed k} {context : Context} {name : String} {past : History k}

theorem Dispensable.append {left : Managed k} (h : Dispensable r past left) (more : History k) :
    Dispensable r (past ++ more) left := by
  obtain h | ⟨observed, hp, hm⟩ := h
  · exact .inl h
  · exact .inr ⟨observed, hp, List.mem_append_left _ hm⟩

/-- The finalizer is released after the secret, if there is one. -/
theorem permitted_release (hr : r.metadata.isDeleted = true ∧ hasFinalizer r = true)
    {left : Managed k} (h : Dispensable r past left) :
    (release name left).Ensures (watch (Permitted r)) anyEnd past := by
  cases hs : left.connectionSecret with
  | none =>
    have hdone : SecretDeleted past left := fun secret e => by simp [hs] at e
    simp only [release, Task.ensures_bind, ensures_write, hs, Option.map_none, after_ok]
    exact ⟨⟨hr, left, h, hdone⟩, fun answer => by cases answer <;> trivial⟩
  | some secret =>
    simp only [release, Task.ensures_bind, ensures_write, hs, Option.map_some]
    refine ⟨hr, fun answer => ?_⟩
    cases answer with
    | error e => trivial
    | ok _ =>
      have hdone : SecretDeleted (past ++ [⟨.cluster (.deleteSecret secret), .ok ()⟩]) left :=
        fun other e => by
          obtain rfl : secret = other := Option.some.inj (hs.symm.trans e)
          exact List.mem_append_right _ (List.mem_singleton.mpr rfl)
      exact ⟨⟨hr, left, h.append _, hdone⟩, fun answer => by cases answer <;> trivial⟩

theorem permitted_publishStatus (hr : r.metadata.isDeleted = true → hasFinalizer r = true)
    {left : Managed k} :
    (publishStatus name left).Ensures (watch (Permitted r)) anyEnd past := by
  rw [publishStatus, ensures_write]
  cases left.status with
  | none => trivial
  | some status => exact ⟨hr, fun answer => trivial⟩

/-- An existing remote object is deleted, or is on its way out already. -/
theorem permitted_tearDown (hr : r.metadata.isDeleted = true ∧ hasFinalizer r = true)
    (hp : r.spec.deletionPolicy = .delete) {left : Managed k} :
    (tearDown context name left).Ensures (watch (Permitted r)) anyEnd past := by
  have hm := monotone_watch (Permitted r)
  rw [tearDown_eq]
  refine ensures_bind_anyEnd hm trivial fun past deleting left => ?_
  refine ensures_bind_anyEnd hm ?_ fun past _ left => ?_
  · cases deleting with
    | true => trivial
    | false => exact ⟨⟨hr.1, hr.2, hp⟩, fun answer => trivial⟩
  · refine ensures_bind_anyEnd hm trivial fun past _ left => ?_
    exact ensures_bind_anyEnd hm (permitted_publishStatus fun _ => hr.2) fun _ _ _ => trivial

/-- A deleted object with the finalizer is observed under the policy `delete` only. -/
theorem permitted_finalize (hr : r.metadata.isDeleted = true ∧ hasFinalizer r = true) :
    (finalize context name r).Ensures (watch (Permitted r)) anyEnd past := by
  simp only [finalize, Task.ensures_bind, ensures_read, after_ok]
  cases hp : r.spec.deletionPolicy with
  | orphan => exact permitted_release hr (.inl ⟨hp, rfl⟩)
  | delete =>
    simp only [Task.ensures_bind, ensures_observe]
    refine ⟨fun _ => ⟨hr.2, hp⟩, fun outcome => ?_⟩
    obtain ⟨e | observed, left⟩ := outcome
    · trivial
    · cases ho : observed.present with
      | true => simpa [ho] using permitted_tearDown hr hp
      | false =>
        have hd : Dispensable r (past ++ [⟨.observe r, ⟨.ok observed, left⟩⟩]) left :=
          .inr ⟨observed, ho, List.mem_append_right _ (List.mem_singleton.mpr rfl)⟩
        simpa [ho] using permitted_release hr hd

/-- The reconciliation of a deleted object: without the finalizer it asks nothing. -/
theorem permitted_reconcileDeleted (hd : r.metadata.isDeleted = true) :
    (reconcileDeleted context name r).Ensures (watch (Permitted r)) anyEnd past := by
  have hm := monotone_watch (Permitted r)
  simp only [reconcileDeleted, Task.ensures_bind, ensures_read, after_ok]
  cases hf : hasFinalizer r with
  | false => trivial
  | true =>
    refine ensures_bind_anyEnd hm ?_ fun past result left => ?_
    · exact ensures_attempt.mpr (permitted_finalize ⟨hd, hf⟩)
    · cases result with
      | ok action => trivial
      | error e =>
        refine ensures_bind_anyEnd hm trivial fun past _ left => ?_
        refine ensures_bind_anyEnd hm ?_ fun _ _ _ => trivial
        exact ensures_attempt.mpr (permitted_publishStatus fun _ => hf)

end Deleted

/-! ## A resource that is wanted -/

section Wanted

variable {r left : Managed k} {context : Context} {name : String} {past : History k}

theorem permitted_storeDesired (hd : r.metadata.isDeleted = false) :
    (storeDesired name left).Ensures (watch (Permitted r)) anyEnd past :=
  ⟨fun h => by simp [hd] at h, fun _ => trivial⟩

theorem permitted_publishDetails (hd : r.metadata.isDeleted = false) {details : Table String} :
    (publishDetails details left).Ensures (watch (Permitted r)) anyEnd past := by
  rw [publishDetails, ensures_write]
  split
  · trivial
  · rename_i c hc
    split at hc
    · simp at hc
    · obtain ⟨secret, -, rfl⟩ := Option.map_eq_some_iff.mp hc
      exact ⟨fun h => by simp [hd] at h, fun _ => trivial⟩

theorem permitted_syncAbsent (hd : r.metadata.isDeleted = false) :
    (syncAbsent context name left).Ensures (watch (Permitted r)) anyEnd past := by
  have hm := monotone_watch (Permitted r)
  refine ensures_bind_anyEnd hm ⟨hd, fun _ => trivial⟩ fun past created left => ?_
  refine ensures_bind_anyEnd hm (permitted_storeDesired hd) fun past _ left => ?_
  exact ensures_bind_anyEnd hm (permitted_publishDetails hd) fun _ _ _ => trivial

theorem permitted_syncPresent (hd : r.metadata.isDeleted = false) {observed : Observed} :
    (syncPresent context name observed left).Ensures (watch (Permitted r)) anyEnd past := by
  have hm := monotone_watch (Permitted r)
  rw [syncPresent_eq]
  refine ensures_bind_anyEnd hm ?_ fun past _ left => ?_
  · cases observed.lateInitialized with
    | false => trivial
    | true => exact permitted_storeDesired hd
  · refine ensures_bind_anyEnd hm (permitted_publishDetails hd) fun past _ left => ?_
    refine ensures_bind_anyEnd hm ?_ fun _ _ _ => trivial
    cases observed.upToDate with
    | true => trivial
    | false => exact ⟨hd, fun _ => trivial⟩

theorem permitted_sync (hd : r.metadata.isDeleted = false) :
    (sync context name left).Ensures (watch (Permitted r)) anyEnd past := by
  have hm := monotone_watch (Permitted r)
  rw [sync_eq]
  refine ensures_bind_anyEnd hm ⟨hd, fun _ => trivial⟩ fun past resolved left => ?_
  refine ensures_bind_anyEnd hm ?_ fun past _ left => ?_
  · cases resolved.changed with
    | false => trivial
    | true => exact permitted_storeDesired hd
  · cases resolved.pending.isEmpty with
    | false => trivial
    | true =>
      refine ensures_bind_anyEnd hm ⟨fun h => by simp [hd] at h, fun _ => trivial⟩
        fun past observed left => ?_
      cases observed.present with
      | true => exact permitted_syncPresent hd
      | false => exact permitted_syncAbsent hd

theorem permitted_reconcileWanted (hd : r.metadata.isDeleted = false) :
    (reconcileWanted context name r).Ensures (watch (Permitted r)) anyEnd past := by
  have hm := monotone_watch (Permitted r)
  rw [reconcileWanted_eq]
  refine ensures_bind_anyEnd hm trivial fun past kept left => ?_
  refine ensures_bind_anyEnd hm ?_ fun past _ left => ?_
  · cases kept with
    | true => trivial
    | false => exact ⟨fun h => by simp [hd] at h, fun _ => trivial⟩
  · refine ensures_bind_anyEnd hm (ensures_attempt.mpr (permitted_sync hd))
      fun past result left => ?_
    refine ensures_bind_anyEnd hm ?_ fun past _ left => ?_
    · cases result <;> trivial
    · refine ensures_bind_anyEnd hm ?_ fun past status left => ?_
      · exact ensures_attempt.mpr (permitted_publishStatus fun h => by simp [hd] at h)
      · cases result <;> cases status <;> trivial

end Wanted

/-! ## Every run -/

theorem permitted_run (context : Context) (r : Managed k) :
    (Reconcile.run context r).Ensures (watch (Permitted r)) anyEnd [] := by
  simp only [Reconcile.run, Dialogue.ensures_bind]
  refine Ensures.of_anyEnd (monotone_watch _) ?_ fun past out => ⟨trivial, fun _ => trivial⟩
  simp only [reconcile, Task.ensures_bind, ensures_read, after_ok]
  cases hd : r.metadata.isDeleted with
  | true => exact permitted_reconcileDeleted hd
  | false => exact permitted_reconcileWanted hd

/-- Each question of a run is permitted after the exchanges before it. -/
theorem permitted_of_run {context : Context} {r : Managed k} {log : History k}
    {result : Except ReconcileError Action} (run : Run (Reconcile.run context r) log result)
    {x : Exchange (Lifecycle k)} (hx : x ∈ log) : ∃ before, Permitted r before x.question := by
  obtain ⟨before, after, e⟩ := List.append_of_mem hx
  exact ⟨before, run.allowed_of_ensures (permitted_run context r) e⟩

/-- **The finalizer outlives the remote object.** In every run, whatever the operations and the
cluster answer and whatever they make of the resource: the finalizer is released only for a deleted
object that carries it, once nothing remote is left to look after and the connection secret is
deleted; under the policy to orphan, a deleted object is neither observed nor deleted remotely;
without the finalizer a deleted object causes no call at all; a deleted object is never resolved,
created or updated; and one that is not deleted keeps its remote object, its secret and its
finalizer. -/
theorem finalizer_released_only_when_dispensable (context : Context) (r : Managed k)
    {log : History k} {result : Except ReconcileError Action}
    (run : Run (Reconcile.run context r) log result) :
    (∀ before name answer after,
      log = before ++ ⟨.cluster (.removeFinalizer name), answer⟩ :: after →
        r.metadata.isDeleted = true ∧ hasFinalizer r = true ∧
          ∃ left, Dispensable r before left ∧ SecretDeleted before left) ∧
    (r.metadata.isDeleted = true → r.spec.deletionPolicy = .orphan →
      ∀ x ∈ log, ∀ s, x.question ≠ .observe s ∧ x.question ≠ .delete s) ∧
    (r.metadata.isDeleted = true → hasFinalizer r = false →
      ∀ x ∈ log, ∃ succeeded, x.question = .record succeeded) ∧
    (r.metadata.isDeleted = true → ∀ x ∈ log, ∀ s,
      x.question ≠ .resolveReferences s ∧ x.question ≠ .create s ∧ x.question ≠ .update s) ∧
    (r.metadata.isDeleted = false → ∀ x ∈ log,
      (∀ s, x.question ≠ .delete s) ∧ (∀ secret, x.question ≠ .cluster (.deleteSecret secret)) ∧
        ∀ name, x.question ≠ .cluster (.removeFinalizer name)) := by
  refine ⟨fun before name answer after e => ?_, fun hd ho x hx s => ?_, fun hd hf x hx => ?_,
    fun hd x hx s => ?_, fun hd x hx => ?_⟩
  · obtain ⟨hr, h⟩ := run.allowed_of_ensures (permitted_run context r) e
    exact ⟨hr.1, hr.2, h⟩
  · obtain ⟨before, h⟩ := permitted_of_run run hx
    constructor
    · intro e
      rw [e] at h
      simpa [ho] using (h hd).2
    · intro e
      rw [e] at h
      simpa [ho] using h.2.2
  · obtain ⟨before, h⟩ := permitted_of_run run hx
    cases hq : x.question with
    | record succeeded => exact ⟨succeeded, rfl⟩
    | cluster c => rw [hq] at h; cases c <;> simp_all [Permitted]
    | _ => rw [hq] at h; simp_all [Permitted]
  · obtain ⟨before, h⟩ := permitted_of_run run hx
    refine ⟨fun e => ?_, fun e => ?_, fun e => ?_⟩ <;>
    · rw [e] at h
      simp [Permitted, hd] at h
  · obtain ⟨before, h⟩ := permitted_of_run run hx
    refine ⟨fun s e => ?_, fun secret e => ?_, fun name e => ?_⟩ <;>
    · rw [e] at h
      simp [Permitted, hd] at h

/-- A network that is deleted, with a connection secret. -/
def deletedNetwork : Managed .vpc where
  metadata := { Metadata.empty with
    name := some "net", finalizers := some [Cluster.finalizer],
    deletionTimestamp := some ⟨0, false⟩ }
  spec := ⟨⟨none, none, none, none⟩, .delete, some ⟨"conn", "apps"⟩, ()⟩
  status := none

/-- The end of `deletedNetwork`: it is gone, so its secret and its finalizer go. -/
theorem deletedNetwork_released :
    ∃ left, Dispensable deletedNetwork
        [⟨.observe deletedNetwork, ⟨.ok .absent, deletedNetwork⟩⟩,
          ⟨.cluster (.deleteSecret ⟨"conn", "apps"⟩), .ok ()⟩] left ∧
      SecretDeleted
        [⟨.observe deletedNetwork, ⟨.ok .absent, deletedNetwork⟩⟩,
          ⟨.cluster (.deleteSecret ⟨"conn", "apps"⟩), .ok ()⟩] left :=
  have run : Run (Reconcile.run ⟨300, 30, "t0"⟩ deletedNetwork)
      [⟨.observe deletedNetwork, ⟨.ok .absent, deletedNetwork⟩⟩,
        ⟨.cluster (.deleteSecret ⟨"conn", "apps"⟩), .ok ()⟩,
        ⟨.cluster (.removeFinalizer "net"), .ok ()⟩, ⟨.record true, ()⟩] (.ok .awaitChange) :=
    .ask _ _ (.ask _ _ (.ask _ _ (.ask _ _ (.done _))))
  ((finalizer_released_only_when_dispensable _ _ run).1 [_, _] "net" (.ok ()) [_] rfl).2.2

end ResourceOperator.Reconcile
