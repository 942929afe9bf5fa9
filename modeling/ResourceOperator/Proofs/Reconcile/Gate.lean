import ResourceOperator.Proofs.Reconcile.Invariant

/-!
# Gates before a change of the remote object

A reconciliation of a resource that is not deleted goes through stages: it takes the finalizer,
resolves the references, stores what that changed, and observes. `survey` is the log of these
stages, in their order and with every call answered by success. `Gated r past q` says when the
reconciliation of `r` may ask `q` after `past`: a creation comes right after a survey that found no
remote object, an update after a survey that found one that has drifted, and after the writes due
in between.

Results:
* `gated_run`: the reconciliation passes every gate, whatever it is answered.
* `recorded_run`: right after a creation that succeeded, what it left on the resource is stored.
* `mutations_gated`: both of every run, said of its log, and that a run changes the remote object
  at most once.
-/

namespace ResourceOperator.Reconcile

open ResourceOperator.Dialogue ResourceOperator.Task

variable {k : Kind}

/-! ## Stages -/

/-- A write that is due and succeeded, or nothing when none is due. -/
def written (call : Option Cluster.Call) : History k :=
  match call with
  | none => []
  | some c => [⟨.cluster c, .ok ()⟩]

/-- The write of the finalizer, unless the object carries it. -/
def finalizerCall (r : Managed k) : Option Cluster.Call :=
  if hasFinalizer r then none else some (.addFinalizer r.displayName)

theorem finalizerCall_of_not (r : Managed k) :
    (if (!hasFinalizer r) = true then some (.addFinalizer r.displayName) else none) =
      finalizerCall r := by
  rw [finalizerCall]
  cases hasFinalizer r <;> rfl

/-- The write of annotations and spec, when it is due. -/
def storeCall (due : Bool) (name : String) (r : Managed k) : Option Cluster.Call :=
  if due then some (.patch name r.desiredStatePatch) else none

/-- The write of connection details, if there are any and a secret is named. -/
def detailsCall (details : Table String) (r : Managed k) : Option Cluster.Call :=
  if details.isEmpty then none
  else r.connectionSecret.map fun secret => .applySecret secret details

/-- What publishes connection details is the write of a secret. -/
theorem exists_secret_of_detailsCall {details : Table String} {r : Managed k}
    {c : Cluster.Call} (h : detailsCall details r = some c) :
    ∃ secret, c = .applySecret secret details := by
  rw [detailsCall] at h
  split at h
  · cases h
  · obtain ⟨secret, -, rfl⟩ := Option.map_eq_some_iff.mp h
    exact ⟨secret, rfl⟩

/-- The stages of a reconciliation of `r` before its remote object is changed: the finalizer, the
resolution that leaves `found`, its storing, and the observation that leaves `seen`. -/
def survey (r : Managed k) (resolved : Resolved) (found : Managed k) (observed : Observed)
    (seen : Managed k) : History k :=
  written (finalizerCall r) ++ [⟨.resolveReferences r, ⟨.ok resolved, found⟩⟩] ++
    written (storeCall resolved.changed r.displayName found) ++
    [⟨.observe found, ⟨.ok observed, seen⟩⟩]

/-- The writes between the observation of an existing remote object and its update. -/
def settled (r : Managed k) (observed : Observed) (seen : Managed k) : History k :=
  written (storeCall observed.lateInitialized r.displayName seen) ++
    written (detailsCall observed.connectionDetails seen)

/-- What the reconciliation of `r` may ask after `past`, as far as its remote object is
concerned. -/
def Gated (r : Managed k) (past : History k) : LifecycleCall k → Prop
  | .create s => ∃ resolved found observed,
    resolved.pending = [] ∧ observed.present = false ∧ past = survey r resolved found observed s
  | .update s => ∃ resolved found observed,
    resolved.pending = [] ∧ observed.present = true ∧ observed.upToDate = false ∧
      past = survey r resolved found observed s ++ settled r observed s
  | .resolveReferences _ => past = written (finalizerCall r)
  | .observe s => ∃ resolved, resolved.pending = [] ∧
    past = written (finalizerCall r) ++ [⟨.resolveReferences r, ⟨.ok resolved, s⟩⟩] ++
      written (storeCall resolved.changed r.displayName s)
  | .delete _ => False
  | .cluster _ => True
  | .record _ => True

/-- A write leads on where it succeeds or is not due; it may end in any failure. -/
theorem ensures_write_watch {allowed : History k → LifecycleCall k → Prop} {r : Managed k}
    {call : Managed k → Option Cluster.Call} {past : History k}
    {post : History k → Except ReconcileError Unit × Managed k → Prop}
    (ha : ∀ c, call r = some c → allowed past (.cluster c))
    (he : ∀ past e, post past (.error e, r)) (hok : post (past ++ written (call r)) (.ok (), r)) :
    (write call r).Ensures (watch allowed) post past := by
  rw [ensures_write]
  cases hc : call r with
  | none => simpa [written, hc] using hok
  | some c =>
    refine ⟨ha c hc, fun answer => ?_⟩
    cases answer with
    | error e => exact he _ e
    | ok _ => simpa [written, hc] using hok

/-! ## The gates are kept -/

section Gates

variable {r : Managed k} {context : Context} {past : History k}

theorem gated_syncPresent {resolved : Resolved} {found seen : Managed k} {observed : Observed}
    (hp : resolved.pending = []) (ho : observed.present = true) :
    (syncPresent context r.displayName observed seen).Ensures (watch (Gated r)) anyEnd
      (survey r resolved found observed seen) := by
  rw [syncPresent_eq, storeDesired, when_write, Task.ensures_bind]
  refine ensures_write_watch (fun _ _ => trivial) (fun _ _ => trivial) ?_
  rw [after_ok, publishDetails, Task.ensures_bind]
  refine ensures_write_watch (fun _ _ => trivial) (fun _ _ => trivial) ?_
  rw [after_ok]
  refine ensures_bind_anyEnd (monotone_watch _) ?_ fun _ _ _ => trivial
  cases hu : observed.upToDate with
  | true => trivial
  | false =>
    refine ⟨⟨resolved, found, observed, hp, ho, hu, ?_⟩, fun _ => trivial⟩
    rw [List.append_assoc]
    rfl

theorem gated_syncAbsent {resolved : Resolved} {found seen : Managed k} {observed : Observed}
    (hp : resolved.pending = []) (ho : observed.present = false) :
    (syncAbsent context r.displayName seen).Ensures (watch (Gated r)) anyEnd
      (survey r resolved found observed seen) := by
  have hm := monotone_watch (Gated r)
  refine ensures_bind_anyEnd hm ⟨⟨resolved, found, observed, hp, ho, rfl⟩, fun _ => trivial⟩
    fun past created left => ?_
  refine ensures_bind_anyEnd hm ⟨trivial, fun _ => trivial⟩ fun past _ left => ?_
  refine ensures_bind_anyEnd hm ?_ fun _ _ _ => trivial
  exact ensures_write_watch (fun _ _ => trivial) (fun _ _ => trivial) trivial

theorem gated_sync :
    (sync context r.displayName r).Ensures (watch (Gated r)) anyEnd
      (written (finalizerCall r)) := by
  rw [sync_eq, Task.ensures_bind, ensures_resolveReferences]
  refine ⟨rfl, fun outcome => ?_⟩
  obtain ⟨e | resolved, found⟩ := outcome
  · trivial
  · rw [settled_ok, storeDesired, when_write, Task.ensures_bind]
    refine ensures_write_watch (fun _ _ => trivial) (fun _ _ => trivial) ?_
    rw [after_ok]
    cases hp : resolved.pending with
    | cons field rest => trivial
    | nil =>
      simp only [List.isEmpty_nil, if_true]
      rw [Task.ensures_bind, ensures_observe]
      refine ⟨⟨resolved, hp, rfl⟩, fun outcome => ?_⟩
      obtain ⟨e | observed, seen⟩ := outcome
      · trivial
      · rw [settled_ok]
        cases ho : observed.present with
        | true => exact gated_syncPresent hp ho
        | false => exact gated_syncAbsent hp ho

theorem gated_reconcileWanted :
    (reconcileWanted context r.displayName r).Ensures (watch (Gated r)) anyEnd [] := by
  have hm := monotone_watch (Gated r)
  rw [reconcileWanted_eq, Task.ensures_bind, ensures_read, after_ok, when_write, Task.ensures_bind]
  refine ensures_write_watch (fun _ _ => trivial) (fun _ _ => trivial) ?_
  rw [after_ok, finalizerCall_of_not]
  refine ensures_bind_anyEnd hm (ensures_attempt.mpr gated_sync) fun past result left => ?_
  refine ensures_bind_anyEnd hm ?_ fun past _ left => ?_
  · cases result <;> trivial
  · refine ensures_bind_anyEnd hm ?_ fun past status left => ?_
    · refine ensures_attempt.mpr ?_
      exact ensures_write_watch (fun _ _ => trivial) (fun _ _ => trivial) trivial
    · cases result <;> cases status <;> trivial

end Gates

/-! ## A creation is recorded at once -/

/-- The last thing that happened is a creation that succeeded and left this resource. -/
def FreshlyCreated (past : History k) (left : Managed k) : Prop :=
  ∃ s created, past.getLast? = some ⟨.create s, ⟨.ok created, left⟩⟩

/-- After a creation, what it left on the resource is stored before anything else. -/
def Recorded (name : String) (past : History k) (q : LifecycleCall k) : Prop :=
  ∀ left, FreshlyCreated past left → q = .cluster (.patch name left.desiredStatePatch)

/-- No creation is left to record. -/
def Unburdened (past : History k) : Prop :=
  ∀ left, ¬ FreshlyCreated past left

theorem unburdened_nil : Unburdened ([] : History k) := by
  rintro left ⟨s, created, h⟩
  simp at h

theorem unburdened_append {past : History k} {x : Exchange (Lifecycle k)}
    (h : ∀ s, x.question ≠ .create s) : Unburdened (past ++ [x]) := by
  rintro left ⟨s, created, e⟩
  rw [List.getLast?_concat] at e
  exact h s (congrArg Exchange.question (Option.some.inj e))

theorem Unburdened.recorded {past : History k} (h : Unburdened past) (name : String)
    (q : LifecycleCall k) : Recorded name past q :=
  fun left hl => absurd hl (h left)

/-- No call but a creation leaves one to record. -/
theorem calm_recorded (name : String) :
    Calm (watch (Recorded name)) fun past (_ : Managed k) => Unburdened past where
  mono := monotone_watch _
  condition _ _ _ h := h
  resolveReferences _ _ h := ⟨h.recorded name _, fun _ => unburdened_append fun _ => nofun⟩
  observe _ _ h := ⟨h.recorded name _, fun _ => unburdened_append fun _ => nofun⟩
  update _ _ h := ⟨h.recorded name _, fun _ => unburdened_append fun _ => nofun⟩
  delete _ _ h := ⟨h.recorded name _, fun _ => unburdened_append fun _ => nofun⟩
  write _ _ _ h _ := ⟨h.recorded name _, fun _ => unburdened_append fun _ => nofun⟩

/-- What a creation left is stored by the very next call. -/
theorem recorded_syncAbsent (context : Context) (name : String) :
    Maintains (watch (Recorded name)) (fun past (_ : Managed k) => Unburdened past)
      (syncAbsent context name) := by
  intro past r h
  rw [syncAbsent, Task.ensures_bind, ensures_create]
  refine ⟨h.recorded name _, fun outcome => ?_⟩
  obtain ⟨e | created, left⟩ := outcome
  · rintro other ⟨s, created, e⟩
    rw [List.getLast?_concat] at e
    cases e
  · rw [settled_ok, Task.ensures_bind, storeDesired, ensures_write]
    refine ⟨fun other hl => ?_, fun answer => ?_⟩
    · obtain ⟨s, created', e⟩ := hl
      rw [List.getLast?_concat] at e
      cases e
      rfl
    · have hu : Unburdened (past ++ [⟨.create r, ⟨.ok created, left⟩⟩] ++
          [⟨.cluster (.patch name left.desiredStatePatch), answer⟩]) :=
        unburdened_append fun _ => nofun
      have calm := calm_recorded (k := k) name
      cases answer with
      | error e => exact hu
      | ok _ =>
        refine maintains_bind calm.mono (calm.publishDetails _) (fun _ => ?_) _ _ hu
        exact maintains_bind calm.mono (calm.setCondition _) fun _ => maintains_pure _

theorem recorded_branch (context : Context) (name : String) :
    Maintains (watch (Recorded name)) (fun past (_ : Managed k) => Unburdened past)
      (branch context name) := by
  have calm := calm_recorded (k := k) name
  refine maintains_bind calm.mono calm.observe fun observed => ?_
  cases observed.present with
  | true => exact calm.syncPresent context name observed
  | false => exact recorded_syncAbsent context name

/-! ## Every run -/

theorem gated_run (context : Context) {r : Managed k} (hd : r.metadata.isDeleted = false) :
    (Reconcile.run context r).Ensures (watch (Gated r)) anyEnd [] := by
  simp only [Reconcile.run, Dialogue.ensures_bind]
  refine Ensures.of_anyEnd (monotone_watch _) ?_ fun past out => ⟨trivial, fun _ => trivial⟩
  simp only [reconcile, Task.ensures_bind, ensures_read, after_ok, hd]
  exact gated_reconcileWanted

/-- A run leaves no creation to record: the outcome is noted at its end. -/
theorem recorded_run (context : Context) {r : Managed k} (hd : r.metadata.isDeleted = false) :
    (Reconcile.run context r).Ensures (watch (Recorded r.displayName))
      (fun past _ => Unburdened past) [] := by
  simp only [Reconcile.run, Dialogue.ensures_bind, reconcile, Task.ensures_bind, ensures_read,
    after_ok, hd]
  refine Ensures.mono (monotone_watch _) (fun past out h => ?_)
    ((calm_recorded _).reconcileWanted context _ (recorded_branch context _) [] r unburdened_nil)
  have hend : ∀ outcome answer, Unburdened (past ++ [⟨.record outcome, answer⟩]) := by
    intro outcome answer
    refine unburdened_append fun s e => ?_
    cases e
  exact ⟨h.recorded _ _, fun answer => hend _ answer⟩

/-- The call creates or updates the remote object. -/
def mutates : LifecycleCall k → Bool
  | .create _ => true
  | .update _ => true
  | _ => false

/-- The call goes to the remote object or to the objects it refers to. -/
def isExternal : LifecycleCall k → Bool
  | .cluster _ => false
  | .record _ => false
  | _ => true

theorem not_mutates_of_mem_written {call : Option Cluster.Call} {y : Exchange (Lifecycle k)}
    (h : y ∈ written call) : mutates y.question = false := by
  cases call with
  | none => simp [written] at h
  | some c =>
    obtain rfl := List.mem_singleton.mp h
    rfl

theorem not_mutates_of_mem_survey {r found seen : Managed k} {resolved : Resolved}
    {observed : Observed} {y : Exchange (Lifecycle k)}
    (h : y ∈ survey r resolved found observed seen) : mutates y.question = false := by
  simp only [survey, List.mem_append, List.mem_singleton] at h
  rcases h with ((h | rfl) | h) | rfl
  · exact not_mutates_of_mem_written h
  · rfl
  · exact not_mutates_of_mem_written h
  · rfl

/-- Before a creation or an update, nothing has been created or updated. -/
theorem Gated.fresh {r : Managed k} {past : History k} {q : LifecycleCall k} (h : Gated r past q)
    (hq : mutates q = true) : ∀ y ∈ past, mutates y.question = false := by
  intro y hy
  cases q with
  | create s =>
    obtain ⟨resolved, found, observed, -, -, rfl⟩ := h
    exact not_mutates_of_mem_survey hy
  | update s =>
    obtain ⟨resolved, found, observed, -, -, -, rfl⟩ := h
    simp only [settled, List.mem_append] at hy
    rcases hy with hy | hy | hy
    · exact not_mutates_of_mem_survey hy
    · exact not_mutates_of_mem_written hy
    · exact not_mutates_of_mem_written hy
  | _ => cases hq

/-- Before a call to the outside, the object carries the finalizer or has been given it. -/
theorem Gated.finalizer {r : Managed k} {past : History k} {q : LifecycleCall k}
    (h : Gated r past q) (hq : isExternal q = true) :
    hasFinalizer r = true ∨ ⟨.cluster (.addFinalizer r.displayName), .ok ()⟩ ∈ past := by
  have hmem : ∀ rest : History k, hasFinalizer r = true ∨
      ⟨.cluster (.addFinalizer r.displayName), .ok ()⟩ ∈ written (finalizerCall r) ++ rest := by
    intro rest
    cases hf : hasFinalizer r with
    | true => exact .inl rfl
    | false => exact .inr (List.mem_append_left _ (by simp [finalizerCall, hf, written]))
  cases q with
  | resolveReferences s =>
    obtain rfl : past = _ := h
    simpa using hmem []
  | observe s =>
    obtain ⟨resolved, -, rfl⟩ := h
    simpa only [List.append_assoc] using hmem _
  | create s =>
    obtain ⟨resolved, found, observed, -, -, rfl⟩ := h
    simpa only [survey, List.append_assoc] using hmem _
  | update s =>
    obtain ⟨resolved, found, observed, -, -, -, rfl⟩ := h
    simpa only [survey, List.append_assoc] using hmem _
  | delete s => exact h.elim
  | cluster c => cases hq
  | record succeeded => cases hq

/-- A predicate that no earlier element meets where it is met is met at most once. -/
theorem countP_le_one {α : Type} {p : α → Bool} : ∀ {l : List α},
    (∀ before x after, l = before ++ x :: after → p x = true → ∀ y ∈ before, p y = false) →
      l.countP p ≤ 1
  | [], _ => Nat.zero_le _
  | x :: rest, h => by
    have hrest : ∀ before y after, rest = before ++ y :: after → p y = true →
        p x = false ∧ ∀ z ∈ before, p z = false := by
      intro before y after e hy
      have := h (x :: before) y after (by rw [e]; rfl) hy
      exact ⟨this x List.mem_cons_self, fun z hz => this z (List.mem_cons_of_mem x hz)⟩
    cases hx : p x with
    | false =>
      rw [List.countP_cons_of_neg (by simp [hx])]
      exact countP_le_one fun before y after e hy => (hrest before y after e hy).2
    | true =>
      have hnone : rest.countP p = 0 := by
        rw [List.countP_eq_zero]
        intro y hy hp
        obtain ⟨before, after, e⟩ := List.append_of_mem hy
        have := (hrest before y after e hp).1
        rw [hx] at this
        exact Bool.noConfusion this
      have := List.countP_cons_of_pos (l := rest) hx
      omega

/-- **Changes of a remote object are gated and recorded.** In every run for a resource that is not
deleted, whatever the operations and the cluster answer and whatever they make of the resource:
the remote object is created or updated at most once; nothing outside is asked before the
finalizer is in place; a creation comes after exactly the stages of a survey that found nothing
pending and no remote object; an update after those of a survey that found a remote object that
has drifted, and after the writes due in between; and the call right after a creation that
succeeded stores the annotations and the spec that it left. -/
theorem mutations_gated (context : Context) (r : Managed k) (hd : r.metadata.isDeleted = false)
    {log : History k} {result : Except ReconcileError Action}
    (run : Run (Reconcile.run context r) log result) :
    log.countP (fun x => mutates x.question) ≤ 1 ∧
    (∀ before x after, log = before ++ x :: after → isExternal x.question = true →
      hasFinalizer r = true ∨ ⟨.cluster (.addFinalizer r.displayName), .ok ()⟩ ∈ before) ∧
    (∀ before s answer after, log = before ++ ⟨.create s, answer⟩ :: after →
      ∃ resolved found observed, resolved.pending = [] ∧ observed.present = false ∧
        before = survey r resolved found observed s) ∧
    (∀ before s answer after, log = before ++ ⟨.update s, answer⟩ :: after →
      ∃ resolved found observed, resolved.pending = [] ∧ observed.present = true ∧
        observed.upToDate = false ∧
        before = survey r resolved found observed s ++ settled r observed s) ∧
    (∀ before s created left after,
      log = before ++ ⟨.create s, ⟨.ok created, left⟩⟩ :: after →
        ∃ answer rest,
          after = ⟨.cluster (.patch r.displayName left.desiredStatePatch), answer⟩ :: rest) := by
  have gated : ∀ before x after, log = before ++ x :: after → Gated r before x.question :=
    fun before x after e => run.allowed_of_ensures (gated_run context hd) e
  refine ⟨countP_le_one fun before x after e hx => (gated before x after e).fresh hx,
    fun before x after e hx => (gated before x after e).finalizer hx,
    fun before s answer after e => gated before _ after e,
    fun before s answer after e => gated before _ after e,
    fun before s created left after e => ?_⟩
  have hfresh : ∀ rest, FreshlyCreated (rest ++ [⟨.create s, ⟨.ok created, left⟩⟩]) left :=
    fun rest => ⟨s, created, List.getLast?_concat⟩
  cases after with
  | nil =>
    have hend := run.post_of_ensures (recorded_run context hd)
    rw [e] at hend
    exact absurd (hfresh before) (hend left)
  | cons y rest =>
    have e' : log = (before ++ [⟨.create s, ⟨.ok created, left⟩⟩]) ++ y :: rest := by
      rw [e, List.append_assoc]
      rfl
    have hy := run.allowed_of_ensures (recorded_run context hd) e' left (hfresh before)
    obtain ⟨q, answer⟩ := y
    obtain rfl : q = _ := hy
    exact ⟨answer, rest, rfl⟩

/-- A network that is wanted, with a connection secret and without the finalizer. -/
def wantedNetwork : Managed .vpc where
  metadata := { Metadata.empty with name := some "net" }
  spec := ⟨⟨some "net", none, none, none⟩, .delete, some ⟨"conn", "apps"⟩, ()⟩
  status := some .empty

/-- What is asked before `wantedNetwork` is updated, when every stage has something to write. -/
def beforeUpdate : History .vpc :=
  [⟨.cluster (.addFinalizer "net"), .ok ()⟩,
    ⟨.resolveReferences wantedNetwork, ⟨.ok ⟨true, []⟩, wantedNetwork⟩⟩,
    ⟨.cluster (.patch "net" wantedNetwork.desiredStatePatch), .ok ()⟩,
    ⟨.observe wantedNetwork, ⟨.ok ⟨true, false, true, [("apikey", "s3cret")]⟩, wantedNetwork⟩⟩,
    ⟨.cluster (.patch "net" wantedNetwork.desiredStatePatch), .ok ()⟩,
    ⟨.cluster (.applySecret ⟨"conn", "apps"⟩ [("apikey", "s3cret")]), .ok ()⟩]

/-- A run that updates `wantedNetwork` has passed the gate of an update. -/
theorem wantedNetwork_updated_after_survey :
    ∃ resolved found observed, resolved.pending = [] ∧ observed.present = true ∧
      observed.upToDate = false ∧
      beforeUpdate = survey wantedNetwork resolved found observed wantedNetwork ++
        settled wantedNetwork observed wantedNetwork :=
  have run : Run (Reconcile.run ⟨300, 30, "t0"⟩ wantedNetwork)
      (beforeUpdate ++ [⟨.update wantedNetwork, ⟨.ok (), wantedNetwork⟩⟩,
        ⟨.cluster (.patchStatus "net" (Status.encode (k := .vpc)
          ⟨none, [.reconcileSuccess "t0"]⟩)), .ok ()⟩,
        ⟨.record true, ()⟩]) (.ok (.requeue 300)) :=
    .ask _ _ (.ask _ _ (.ask _ _ (.ask _ _ (.ask _ _ (.ask _ _ (.ask _ _ (.ask _ _
      (.ask _ _ (.done _)))))))))
  (mutations_gated _ wantedNetwork rfl run).2.2.2.1 beforeUpdate wantedNetwork _ _ rfl

end ResourceOperator.Reconcile
