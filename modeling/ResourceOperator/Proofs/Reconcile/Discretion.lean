import ResourceOperator.Proofs.Lockstep
import ResourceOperator.Proofs.Reconcile.Invariant
import ResourceOperator.Proofs.ResourceKey.Credentials

/-!
# What becomes of connection details in a reconciliation

Observations and creations yield connection details. A reconciliation publishes them and does
nothing else with them: two reconciliations of a resource that are answered alike, but for the
connection details, ask the same and come to the same, but for what they publish.

What they publish may differ in whether anything is published at all, since nothing is where there
are no details. From the publication on, neither of the two is told of details again (`Plain`),
which is why it is enough to relate them up to there (`Discreet`).

Results:
* `Discreet.bind_plain`, `discreet_after_plain`: the rules for what comes before and after.
* `discreet_publishDetails`: what is published may differ, in whether it is published as well.
* `discreet_run`: a reconciliation is discreet, whatever the kind of its resource.
-/

namespace ResourceOperator

open Dialogue ResourceOperator.Task

variable {k : Kind} {α β : Type} {now : String}

/-- The answers at one time are alike if they are equal but for the connection details. -/
def Lifecycle.Alike (now : String) : Likeness (Lifecycle k)
  | .observe _, answer, answer' => Outcome.Alike now now Observed.Alike answer answer'
  | .create _, answer, answer' => Outcome.Alike now now Created.Alike answer answer'
  | _, answer, answer' => answer = answer'

/-- The call neither yields connection details nor publishes any. -/
def LifecycleCall.Plain : LifecycleCall k → Prop
  | .observe _ => False
  | .create _ => False
  | .cluster (.applySecret _ _) => False
  | _ => True

theorem LifecycleCall.Plain.eq_of_alike {q : LifecycleCall k} (hq : q.Plain)
    {answer answer' : (Lifecycle k).Answer q} (h : Lifecycle.Alike now q answer answer') :
    answer = answer' := by
  cases q with
  | observe _ | create _ => exact hq.elim
  | _ => exact h

/-- The rule that allows plain calls only. -/
abbrev Reconcile.plainly : Rule (Lifecycle k) Unit :=
  asking LifecycleCall.Plain fun _ => True

/-- Nothing in the dialogue has to do with connection details. -/
def Reconcile.Plain (d : Dialogue (Lifecycle k) α) : Prop :=
  d.Ensures plainly anyEnd ()

/-- Nothing in the task has to do with connection details. -/
abbrev Task.Plain (t : Task k α) : Prop :=
  Maintains Reconcile.plainly (fun _ _ => True) t

namespace Reconcile

theorem monotone_plainly : (plainly (k := k)).Monotone :=
  monotone_asking _ _

theorem Plain.bind {d : Dialogue (Lifecycle k) α} {f : α → Dialogue (Lifecycle k) β}
    (hd : Plain d) (hf : ∀ a, Plain (f a)) : Plain (d.bind f) :=
  (ensures_bind d f).mpr (hd.of_anyEnd monotone_plainly fun _ => hf)

/-! ## Discreet dialogues -/

/-- Publishes connection details, if there are any. -/
def publishing (secret : SecretReference) (details : Option (Table String))
    (next : Except ReconcileError Unit → Dialogue (Lifecycle k) α) : Dialogue (Lifecycle k) α :=
  match details with
  | none => next (.ok ())
  | some details => .ask (.cluster (.applySecret secret details)) next

theorem publishing_bind (secret : SecretReference) (details : Option (Table String))
    (next : Except ReconcileError Unit → Dialogue (Lifecycle k) α)
    (f : α → Dialogue (Lifecycle k) β) :
    (publishing secret details next).bind f =
      publishing secret details fun answer => (next answer).bind f := by
  cases details <;> rfl

/-- Two dialogues that ask the same for as long as they are answered alike, and of which each may
publish connection details of its own once. -/
inductive Discreet (now : String) :
    Dialogue (Lifecycle k) α → Dialogue (Lifecycle k) α → Prop where
  | plain {d : Dialogue (Lifecycle k) α} (h : Plain d) : Discreet now d d
  | ask (q : LifecycleCall k) {next next' : (Lifecycle k).Answer q → Dialogue (Lifecycle k) α}
      (h : ∀ answer answer', Lifecycle.Alike now q answer answer' →
        Discreet now (next answer) (next' answer')) :
      Discreet now (.ask q next) (.ask q next')
  | publish (secret : SecretReference) (details details' : Option (Table String))
      {next : Except ReconcileError Unit → Dialogue (Lifecycle k) α}
      (h : ∀ answer, Plain (next answer)) :
      Discreet now (publishing secret details next) (publishing secret details' next)

theorem Discreet.bind_plain {d d' : Dialogue (Lifecycle k) α} {f : α → Dialogue (Lifecycle k) β}
    (h : Discreet now d d') (hf : ∀ a, Plain (f a)) : Discreet now (d.bind f) (d'.bind f) := by
  induction h with
  | plain hd => exact .plain (hd.bind hf)
  | ask q _ ih => exact .ask q ih
  | publish secret details details' hnext =>
    rw [publishing_bind, publishing_bind]
    exact .publish secret details details' fun answer => (hnext answer).bind hf

theorem discreet_after_plain {d : Dialogue (Lifecycle k) α}
    {f f' : α → Dialogue (Lifecycle k) β} (hd : Plain d) (hf : ∀ a, Discreet now (f a) (f' a)) :
    Discreet now (d.bind f) (d.bind f') := by
  induction d with
  | done a => exact hf a
  | ask q next ih =>
    refine .ask q fun answer answer' h => ?_
    obtain rfl := hd.1.eq_of_alike h
    exact ih answer (hd.2 answer trivial)

end Reconcile

/-! ## Discreet tasks -/

namespace Task

/-- Two tasks are discreet on every resource. -/
def Discreet (now : String) (t t' : Task k α) : Prop :=
  ∀ r, Reconcile.Discreet now (t r) (t' r)

theorem Plain.discreet {t : Task k α} (h : Plain t) : Discreet now t t :=
  fun r => .plain (h () r trivial)

theorem Discreet.bind_plain {t t' : Task k α} {f : α → Task k β} (h : Discreet now t t')
    (hf : ∀ a, Plain (f a)) : Discreet now (t >>= f) (t' >>= f) := by
  refine fun r => (h r).bind_plain ?_
  rintro ⟨e | a, r⟩
  · trivial
  · exact hf a () r trivial

theorem discreet_after_plain {t : Task k α} {f f' : α → Task k β} (ht : Plain t)
    (hf : ∀ a, Discreet now (f a) (f' a)) : Discreet now (t >>= f) (t >>= f') := by
  refine fun r => Reconcile.discreet_after_plain (ht () r trivial) ?_
  rintro ⟨e | a, r⟩
  · exact .plain trivial
  · exact hf a r

theorem Discreet.attempt {t t' : Task k α} (h : Discreet now t t') :
    Discreet now t.attempt t'.attempt :=
  fun r => (h r).bind_plain fun _ => trivial

/-! ## Observations, creations and publications -/

/-- What follows an operation is discreet if it is after values that are alike. -/
theorem discreet_outcome {related : α → α → Prop} {f f' : α → Task k β} {t : Task k α}
    {r : Managed k} (q : LifecycleCall k) {outcome : (Lifecycle k).Answer q → Outcome k α}
    (hq : ∀ answer answer', Lifecycle.Alike now q answer answer' →
      Outcome.Alike now now related (outcome answer) (outcome answer'))
    (hf : ∀ a a', related a a' → Discreet now (f a) (f' a'))
    (ht : t r = .ask q fun answer =>
      .done ((outcome answer).result.mapError .engine, (outcome answer).resource)) :
    Reconcile.Discreet now ((t >>= f) r) ((t >>= f') r) := by
  show Reconcile.Discreet now (Task.bind t f r) (Task.bind t f' r)
  unfold Task.bind
  rw [ht]
  refine .ask q fun answer answer' h => ?_
  obtain ⟨hresult, hresource⟩ := hq answer answer' h
  simp only [done_bind]
  rw [hresource.eq]
  generalize (outcome answer).result = result at hresult
  generalize (outcome answer').result = result' at hresult
  cases hresult with
  | ok ha => exact hf _ _ ha _
  | error e => exact .plain trivial

theorem discreet_observe_bind {f f' : Observed → Task k β}
    (hf : ∀ o o', Observed.Alike o o' → Discreet now (f o) (f' o')) :
    Discreet now (observe >>= f) (observe >>= f') :=
  fun r => discreet_outcome (.observe r) (fun _ _ h => h) hf rfl

theorem discreet_create_bind {f f' : Created → Task k β}
    (hf : ∀ c c', Created.Alike c c' → Discreet now (f c) (f' c')) :
    Discreet now (create >>= f) (create >>= f') :=
  fun r => discreet_outcome (.create r) (fun _ _ h => h) hf rfl

theorem write_none {call : Managed k → Option Cluster.Call} {r : Managed k} (h : call r = none) :
    write call r = .done (.ok (), r) := by
  unfold write
  cases hc : call r with
  | none => rfl
  | some c => exact absurd (h.symm.trans hc) nofun

theorem write_some {call : Managed k → Option Cluster.Call} {r : Managed k} {c : Cluster.Call}
    (h : call r = some c) :
    write call r = .ask (.cluster c) fun answer => .done (answer, r) := by
  unfold write
  cases hc : call r with
  | none => exact absurd (h.symm.trans hc) nofun
  | some due =>
    obtain rfl : c = due := Option.some.inj (h.symm.trans hc)
    rfl

theorem publishDetails_eq {r : Managed k} {secret : SecretReference}
    (hs : r.connectionSecret = some secret) (details : Table String) :
    Reconcile.publishDetails details r =
      Reconcile.publishing secret (if details.isEmpty then none else some details) fun answer =>
        .done (answer, r) := by
  cases he : details.isEmpty with
  | true => exact write_none (by simp [he])
  | false => exact write_some (by simp [he, hs])

/-- What is published may differ, and whether anything is. -/
theorem discreet_publishDetails (details details' : Table String) :
    Discreet (k := k) now (Reconcile.publishDetails details)
      (Reconcile.publishDetails details') := by
  intro r
  cases hs : r.connectionSecret with
  | none =>
    -- no secret is named, and neither of the two publishes anything
    have hnothing : ∀ details, Reconcile.publishDetails details r = .done (.ok (), r) := by
      intro details
      refine write_none ?_
      rw [hs]
      exact ite_self none
    rw [hnothing, hnothing]
    exact .plain trivial
  | some secret =>
    rw [publishDetails_eq hs, publishDetails_eq hs]
    exact .publish secret _ _ fun _ => trivial

end Task

/-! ## The parts of a reconciliation -/

namespace Reconcile

variable (context : Context) (name : String)

theorem plain_modify (f : Managed k → Managed k) : Task.Plain (modify f) :=
  maintains_modify fun _ _ _ => trivial

theorem plain_write {call : Managed k → Option Cluster.Call}
    (hc : ∀ r c, call r = some c → LifecycleCall.Plain (k := k) (.cluster c)) :
    Task.Plain (Task.write call) :=
  maintains_write fun _ r c _ e => ⟨hc r c e, fun _ _ => trivial⟩

theorem plain_storeDesired : Task.Plain (storeDesired (k := k) name) :=
  plain_write fun _ _ e => by
    cases e
    trivial

theorem plain_publishStatus : Task.Plain (publishStatus (k := k) name) :=
  plain_write fun _ _ e => by
    obtain ⟨_, -, rfl⟩ := Option.map_eq_some_iff.mp e
    trivial

theorem plain_noteFailure (result : Except ReconcileError Action) :
    Task.Plain (noteFailure (k := k) context result) := by
  cases result with
  | ok _ => exact maintains_pure ()
  | error e => exact plain_modify _

/-- The end of a task that notes a condition. -/
theorem plain_noted (c : Condition) (action : Action) :
    Task.Plain (modify (k := k) (Managed.setCondition c) >>= fun _ => pure action) :=
  maintains_bind monotone_plainly (plain_modify _) fun _ => maintains_pure _

/-- What is left to do once details are published. -/
theorem plain_adjust (due : Bool) (c : Condition) (action : Action) :
    Task.Plain (when due (Task.update (k := k)) >>= fun _ =>
      modify (Managed.setCondition c) >>= fun _ => pure action) := by
  refine maintains_bind monotone_plainly (maintains_when _ ?_) fun _ => plain_noted _ _
  exact fun _ _ _ => ⟨trivial, fun _ _ => trivial⟩

theorem plain_release : Task.Plain (release (k := k) name) := by
  refine maintains_bind monotone_plainly (plain_write fun _ _ e => ?_) fun _ => ?_
  · obtain ⟨_, -, rfl⟩ := Option.map_eq_some_iff.mp e
    trivial
  · refine maintains_bind monotone_plainly (plain_write fun _ _ e => ?_) fun _ =>
      maintains_pure _
    cases e
    trivial

theorem plain_tearDown : Task.Plain (tearDown (k := k) context name) := by
  rw [tearDown_eq]
  refine maintains_bind monotone_plainly (maintains_read _) fun deleting => ?_
  refine maintains_bind monotone_plainly (maintains_when _ ?_) fun _ => ?_
  · exact fun _ _ _ => ⟨trivial, fun _ _ => trivial⟩
  refine maintains_bind monotone_plainly (plain_modify _) fun _ => ?_
  exact maintains_bind monotone_plainly (plain_publishStatus name) fun _ => maintains_pure _

/-- The end of the reconciliation of a resource that is being deleted. -/
theorem plain_finalized (result : Except ReconcileError Action) :
    Task.Plain (k := k) (match result with
      | .ok action => pure action
      | .error e => noteFailure context (.error e) >>= fun _ =>
        (publishStatus name).attempt >>= fun _ => ofResult (.error e)) := by
  cases result with
  | ok action => exact maintains_pure action
  | error e =>
    refine maintains_bind monotone_plainly (plain_noteFailure context _) fun _ => ?_
    refine maintains_bind monotone_plainly ?_ fun _ => maintains_ofResult _
    exact maintains_attempt (plain_publishStatus name)

/-- The end of the reconciliation of a resource that is wanted. -/
theorem plain_synced (result : Except ReconcileError Action) :
    Task.Plain (k := k) (noteFailure context result >>= fun _ =>
      (publishStatus name).attempt >>= fun status => ofResult result >>= fun action =>
      ofResult status >>= fun _ => pure action) := by
  refine maintains_bind monotone_plainly (plain_noteFailure context result) fun _ => ?_
  refine maintains_bind monotone_plainly (maintains_attempt (plain_publishStatus name))
    fun status => ?_
  refine maintains_bind monotone_plainly (maintains_ofResult result) fun action => ?_
  exact maintains_bind monotone_plainly (maintains_ofResult status) fun _ => maintains_pure _

theorem plain_addFinalizer (due : Bool) :
    Task.Plain (k := k) (when due (Task.write fun _ => some (.addFinalizer name))) :=
  maintains_when _ (plain_write fun _ _ e => by
    cases e
    trivial)

theorem discreet_syncPresent {observed observed' : Observed}
    (h : Observed.Alike observed observed') :
    Task.Discreet (k := k) now (syncPresent context name observed)
      (syncPresent context name observed') := by
  obtain ⟨present, upToDate, lateInitialized, details⟩ := observed
  obtain ⟨_, _, _, details'⟩ := observed'
  cases h
  rw [syncPresent_eq, syncPresent_eq]
  refine Task.discreet_after_plain (maintains_when _ (plain_storeDesired name)) fun _ => ?_
  exact (discreet_publishDetails details details').bind_plain fun _ => plain_adjust _ _ _

theorem discreet_syncAbsent :
    Task.Discreet (k := k) now (syncAbsent context name) (syncAbsent context name) := by
  refine discreet_create_bind fun created created' _ => ?_
  refine Task.discreet_after_plain (plain_storeDesired name) fun _ => ?_
  exact (discreet_publishDetails _ _).bind_plain fun _ => plain_noted _ _

theorem discreet_sync :
    Task.Discreet (k := k) now (sync context name) (sync context name) := by
  rw [sync_eq]
  refine Task.discreet_after_plain ?_ fun resolved => ?_
  · exact fun _ _ _ => ⟨trivial, fun _ _ => trivial⟩
  refine Task.discreet_after_plain (maintains_when _ (plain_storeDesired name)) fun _ => ?_
  cases resolved.pending.isEmpty with
  | false => exact (plain_noted _ _).discreet
  | true =>
    refine discreet_observe_bind fun observed observed' h => ?_
    rw [h.present]
    cases observed.present with
    | true => exact discreet_syncPresent context name h
    | false => exact discreet_syncAbsent context name

theorem discreet_finalize :
    Task.Discreet (k := k) now (finalize context name) (finalize context name) := by
  refine Task.discreet_after_plain (maintains_read _) fun policy => ?_
  cases policy with
  | orphan => exact (plain_release name).discreet
  | delete =>
    refine discreet_observe_bind fun observed observed' h => ?_
    rw [h.present]
    cases observed.present with
    | true => exact (plain_tearDown context name).discreet
    | false => exact (plain_release name).discreet

theorem discreet_reconcileDeleted :
    Task.Discreet (k := k) now (reconcileDeleted context name) (reconcileDeleted context name) := by
  refine Task.discreet_after_plain (maintains_read _) fun kept => ?_
  cases kept with
  | false => exact Task.Plain.discreet (maintains_pure _)
  | true =>
    exact (discreet_finalize context name).attempt.bind_plain (plain_finalized context name)

theorem discreet_reconcileWanted :
    Task.Discreet (k := k) now (reconcileWanted context name) (reconcileWanted context name) := by
  rw [reconcileWanted_eq]
  refine Task.discreet_after_plain (maintains_read _) fun kept => ?_
  refine Task.discreet_after_plain (plain_addFinalizer name _) fun _ => ?_
  -- details are told and published in there; what follows only notes how it ended
  exact (discreet_sync context name).attempt.bind_plain (plain_synced context name)

/-- **A reconciliation is discreet** with itself: what it is told of connection details it
publishes, and it makes no other use of them. -/
theorem discreet_run (r : Managed k) : Discreet now (run context r) (run context r) := by
  have h : Task.Discreet (k := k) now (reconcile context) (reconcile context) := by
    refine Task.discreet_after_plain (maintains_read _) fun name => ?_
    refine Task.discreet_after_plain (maintains_read _) fun deleted => ?_
    cases deleted with
    | true => exact discreet_reconcileDeleted context name
    | false => exact discreet_reconcileWanted context name
  exact (h r).bind_plain fun _ => ⟨trivial, fun _ _ => trivial⟩

end Reconcile

end ResourceOperator
