import ResourceOperator.Proofs.Reconcile.Outcome

/-!
# What a reconciliation reports

A reconciliation records its outcome once, at its end. For a wanted resource it publishes the status
once, after `sync` has ended in whatever way; for a deleted one whose finalization failed, it notes
that failure and reports it whatever becomes of the note. `Told` says what a condition tells of the
way `sync` ended, and `Reported` how that determines the rest of the run.

Results:
* `wanted_of_run`, `deleted_of_run`: a run for a resource that is wanted, or deleted, in its parts.
* `outcome_reported`: the published status, the result and the recorded outcome of every run.
-/

namespace ResourceOperator.Reconcile

open ResourceOperator.Dialogue ResourceOperator.Task

variable {k : Kind}

/-! ## The outcome is recorded once -/

/-- The call records an outcome. -/
def records : LifecycleCall k → Bool
  | .record _ => true
  | _ => false

theorem calm_unrecorded :
    Calm (watch fun _ q => records q = false) fun _ (_ : Managed k) => True where
  mono := monotone_watch _
  condition _ _ _ _ := trivial
  resolveReferences _ _ _ := ⟨rfl, fun _ => trivial⟩
  observe _ _ _ := ⟨rfl, fun _ => trivial⟩
  update _ _ _ := ⟨rfl, fun _ => trivial⟩
  delete _ _ _ := ⟨rfl, fun _ => trivial⟩
  write _ _ _ _ _ := ⟨rfl, fun _ => trivial⟩

/-- A run is one of the reconciliation, which records nothing, and the record of its outcome. -/
theorem recorded_of_run {context : Context} {r : Managed k} {log : History k}
    {result : Except ReconcileError Action} (run : Run (Reconcile.run context r) log result) :
    ∃ calls left, Run (reconcile context r) calls (result, left) ∧
      log = calls ++ [⟨.record (Except.isOk result), ()⟩] ∧
      ∀ x ∈ calls, records x.question = false := by
  obtain ⟨calls, rest, ⟨result', left⟩, hrun, hrest, rfl⟩ := Run.bind.mp run
  obtain ⟨⟨⟩, rest, hdone, rfl⟩ := run_ask_iff.mp hrest
  obtain ⟨rfl, rfl⟩ := run_done_iff.mp hdone
  have calm := calm_unrecorded (k := k)
  have hunrecorded := calm.reconcile context
    (fun name => calm.branch_of_create context name fun _ _ _ => ⟨rfl, fun _ => trivial⟩) [] r trivial
  refine ⟨calls, left, hrun, rfl, fun x hx => ?_⟩
  obtain ⟨before, after, e⟩ := List.append_of_mem hx
  exact hrun.allowed_of_ensures hunrecorded e

/-! ## The conditions tell how `sync` ended -/

/-- What a condition tells of a way to end, with these fields pending. -/
structure Told (c : Condition) (outcome : Except ReconcileError Action) (pending : List String) :
    Prop where
  /-- It tells of success where nothing has failed and nothing is pending. -/
  success : c.reason = .reconcileSuccess ↔ (∃ action, outcome = .ok action) ∧ pending = []
  /-- A failure is told by its text. -/
  failure : ∀ e, outcome = .error e → c.reason = .reconcileError ∧ c.message = some e.message
  /-- Where fields are pending, each is named. -/
  waiting : ∀ action, outcome = .ok action → pending ≠ [] →
    c.reason = .reconcileError ∧
      ∃ message, c.message = some message ∧ ∀ field ∈ pending, field.toList <:+: message.toList

/-- The condition that is noted at the end of `sync`. -/
def closing (context : Context) (pending : List String) :
    Except ReconcileError Action → Condition
  | .ok _ => verdict context pending
  | .error e => .reconcileError e.message context.now

/-- The resource with the failure noted, if there is one. -/
def noted (context : Context) (left : Managed k) : Except ReconcileError Action → Managed k
  | .ok _ => left
  | .error e => left.setCondition (.reconcileError e.message context.now)

/-- A text is part of the texts that it is one of, put together. -/
theorem infix_intercalate {α : Type} {sep x : List α} :
    ∀ {parts : List (List α)}, x ∈ parts → x <:+: sep.intercalate parts
  | [], h => absurd h List.not_mem_nil
  | [y], h => by
    have hx : [] ++ x ++ [] = sep.intercalate [y] := by
      rw [List.mem_singleton.mp h, List.intercalate_singleton, List.nil_append, List.append_nil]
    exact ⟨[], [], hx⟩
  | y :: z :: rest, h => by
    rw [List.intercalate_cons_cons]
    rcases List.mem_cons.mp h with rfl | h
    · exact ⟨[], sep ++ sep.intercalate (z :: rest), by simp⟩
    · exact (infix_intercalate h).trans (List.suffix_append _ _).isInfix

/-- The message of a resource that waits names every field that it waits for. -/
theorem pendingMessage_names {fields : List String} {field : String} (h : field ∈ fields) :
    field.toList <:+: (pendingMessage fields).toList := by
  have hnames : field.toList <:+: (", ".intercalate fields).toList := by
    rw [String.toList_intercalate]
    exact infix_intercalate (List.mem_map_of_mem h)
  simp only [pendingMessage, String.toList_append]
  exact hnames.trans (List.infix_append _ _ _)

theorem closing_aspect (context : Context) (pending : List String)
    (outcome : Except ReconcileError Action) :
    (closing context pending outcome).aspect = .synced := by
  cases outcome with
  | error e => rfl
  | ok action =>
    rw [closing, verdict]
    cases pending.isEmpty <;> rfl

/-- A condition that is the closing one but for its time tells how `sync` ended. -/
theorem told_of_equivalent {context : Context} {pending : List String}
    {outcome : Except ReconcileError Action} {c : Condition}
    (h : c.equivalent (closing context pending outcome) = true) : Told c outcome pending := by
  obtain ⟨-, -, hreason, hmessage⟩ := Condition.equivalent_iff.mp h
  cases outcome with
  | error e =>
    refine ⟨⟨fun hs => ?_, ?_⟩, fun e' he => ?_, fun action ha => ?_⟩
    · rw [hs] at hreason
      cases hreason
    · rintro ⟨⟨action, ha⟩, -⟩
      cases ha
    · cases he
      exact ⟨hreason, hmessage⟩
    · cases ha
  | ok action =>
    rw [closing, verdict] at hreason hmessage
    cases pending with
    | nil =>
      refine ⟨⟨fun _ => ⟨⟨action, rfl⟩, rfl⟩, fun _ => hreason⟩, fun e he => ?_,
        fun _ _ hp => absurd rfl hp⟩
      cases he
    | cons field rest =>
      refine ⟨⟨fun hs => ?_, ?_⟩, fun e he => ?_, fun _ _ _ => ?_⟩
      · rw [hs] at hreason
        cases hreason
      · rintro ⟨-, hp⟩
        cases hp
      · cases he
      · exact ⟨hreason, _, hmessage, fun f hf => pendingMessage_names hf⟩

/-- The resource that is left shows the closing condition, whatever the end. -/
theorem noted_shows {context : Context} {name : String} {r left : Managed k} {inner : History k}
    {outcome : Except ReconcileError Action}
    (run : Run (sync context name r) inner (outcome, left)) :
    (noted context left outcome).Shows (closing context (pendingFields inner) outcome) := by
  cases outcome with
  | error e => exact Managed.shows_setCondition left _
  | ok action => exact (run.post_of_ensures (ends_sync context name r)).2.2

/-! ## A resource that is wanted -/

/-- How a run for a wanted resource goes on after `sync` has ended with `outcome`, after the
exchanges `inner`: `status` is published, the cluster answers that with `answer`, and the run ends
with `result`. -/
structure Reported (context : Context) (inner : History k)
    (outcome : Except ReconcileError Action) (status : Status k)
    (answer : Except ReconcileError Unit) (result : Except ReconcileError Action) : Prop where
  /-- No status is published before that. -/
  unpublished : ∀ x ∈ inner, publishes x.question = false
  /-- After a call that failed nothing else is asked, and `sync` fails as the call did. -/
  broken_off : ∀ before x after, inner = before ++ x :: after → ∀ e, failure? x = some e →
    after = [] ∧ outcome = .error e
  /-- `sync` fails with its last call only. -/
  failed : ∀ e, outcome = .error e → FailedLast inner e
  /-- The first condition of the status that says whether it is in sync tells how `sync` ended. -/
  told : ∃ c, Condition.first .synced status.conditions = some c ∧
    Told c outcome (pendingFields inner)
  /-- A failure of `sync` is the result, whatever becomes of the status. -/
  failure_first : ∀ e, outcome = .error e → result = .error e
  /-- Where `sync` has succeeded, a failure to publish the status is the result. -/
  publishing_next : ∀ action e, outcome = .ok action → answer = .error e → result = .error e
  /-- Where neither has failed, the run is due again soon when it waits or has created, and later
  otherwise. -/
  otherwise : ∀ action, outcome = .ok action → answer = .ok () →
    result = .ok (.requeue (interval context inner))

section Parts

variable {context : Context} {name : String} {r left : Managed k} {log : History k}

theorem noteFailure_bind {α : Type} (outcome : Except ReconcileError Action)
    (f : Unit → Task k α) :
    (noteFailure context outcome >>= f) left = f () (noted context left outcome) := by
  cases outcome <;> rfl

/-- A status that is there is published. -/
theorem run_publishStatus {status : Status k} (hs : left.status = some status)
    {out : Except ReconcileError Unit × Managed k} :
    Run (publishStatus name left) log out ↔
      ∃ answer, log = [⟨.cluster (.patchStatus name status.encode), answer⟩] ∧
        out = (answer, left) := by
  rw [publishStatus, run_write, hs]
  rfl

/-- The resource with the failure noted has a status: it shows the closing condition. -/
theorem noted_status {inner : History k} {outcome : Except ReconcileError Action}
    (run : Run (sync context name r) inner (outcome, left)) :
    ∃ status c, (noted context left outcome).status = some status ∧
      Condition.first .synced status.conditions = some c ∧
      Told c outcome (pendingFields inner) := by
  obtain ⟨status, c, hs, hc, he⟩ := noted_shows run
  rw [closing_aspect] at hc
  exact ⟨status, c, hs, hc, told_of_equivalent he⟩

/-- What comes after `sync` in a run for a wanted resource: the status is published. -/
theorem reported_of_run {inner : History k} {outcome : Except ReconcileError Action}
    (run : Run (sync context name r) inner (outcome, left)) {result : Except ReconcileError Action}
    {last : Managed k}
    (rest : Run ((noteFailure context outcome >>= fun _ => (publishStatus name).attempt >>=
      fun answer => ofResult outcome >>= fun action => ofResult answer >>= fun _ =>
        (pure action : Task k Action)) left) log (result, last)) :
    ∃ status answer, log = [⟨.cluster (.patchStatus name status.encode), answer⟩] ∧
      Reported context inner outcome status answer result := by
  obtain ⟨status, c, hs, hc, htold⟩ := noted_status run
  rw [noteFailure_bind] at rest
  obtain ⟨_, tail, answer, middle, hp, htail, rfl⟩ := run_attempt_bind.mp rest
  obtain ⟨_, rfl, hout⟩ := (run_publishStatus hs).mp hp
  cases hout
  have hdone : tail = [] ∧ result = outcome.bind fun action => answer.map fun _ => action := by
    cases outcome <;> cases answer <;>
    · obtain ⟨rfl, hout⟩ := run_done_iff.mp htail
      exact ⟨rfl, (Prod.mk.inj hout).1⟩
  obtain ⟨rfl, rfl⟩ := hdone
  have hends := ends_sync context name r
  refine ⟨status, answer, rfl, ?_, ?_, ?_, ⟨c, hc, htold⟩, ?_, ?_, ?_⟩
  · intro x hx
    obtain ⟨before, after, e⟩ := List.append_of_mem hx
    exact (run.allowed_of_ensures hends e).2
  · intro before x after e failure hx
    exact hends.failed_call run e hx
  · rintro failure rfl
    exact hends.failed_result run
  · rintro failure rfl
    rfl
  · rintro action failure rfl rfl
    rfl
  · rintro action rfl rfl
    obtain ⟨-, rfl, -⟩ := run.post_of_ensures hends
    rfl

/-- A run for a wanted resource in its parts: the finalizer, `sync`, and the report. -/
theorem wanted_of_run {result : Except ReconcileError Action} {last : Managed k}
    (run : Run (reconcileWanted context r.displayName r) log (result, last)) :
    (hasFinalizer r = false ∧ ∃ e, result = .error e ∧
      log = [⟨.cluster (.addFinalizer r.displayName), .error e⟩]) ∨
    ∃ inner outcome left status answer,
      Run (sync context r.displayName r) inner (outcome, left) ∧
      Reported context inner outcome status answer result ∧
      log = written (finalizerCall r) ++ inner ++
        [⟨.cluster (.patchStatus r.displayName status.encode), answer⟩] := by
  rw [reconcileWanted_eq, read_bind, when_write, finalizerCall_of_not] at run
  rcases run_write_bind.mp run with ⟨_, hwanted, rfl⟩ | ⟨c, e, hcall, rfl, hout⟩
  · -- the finalizer is there
    obtain ⟨inner, _, outcome, left, hsync, hrest, rfl⟩ := run_attempt_bind.mp hwanted
    obtain ⟨status, answer, rfl, hreported⟩ := reported_of_run hsync hrest
    exact .inr ⟨inner, outcome, left, status, answer, hsync, hreported,
      (List.append_assoc _ _ _).symm⟩
  · -- the finalizer could not be added
    cases hf : hasFinalizer r with
    | true =>
      rw [finalizerCall, hf] at hcall
      cases hcall
    | false =>
      rw [finalizerCall, hf] at hcall
      cases hcall
      cases hout
      exact .inl ⟨rfl, e, rfl, rfl⟩

/-- A run for a deleted resource that is kept, in its parts: the end, and the note of a failure. -/
theorem deleted_of_run (hf : hasFinalizer r = true) {result : Except ReconcileError Action}
    {last : Managed k} (run : Run (reconcileDeleted context name r) log (result, last)) :
    ∃ inner left, Run (finalize context name r) inner (result, left) ∧
      ((∃ action, result = .ok action ∧ log = inner) ∨
        ∃ e status c answer, result = .error e ∧
          Condition.first .synced status.conditions = some c ∧
          c.reason = .reconcileError ∧ c.message = some e.message ∧
          log = inner ++ [⟨.cluster (.patchStatus name (Status.encode (k := k) status)), answer⟩]) := by
  rw [reconcileDeleted, read_bind, hf] at run
  obtain ⟨inner, rest, outcome, left, hfinalize, hrest, rfl⟩ := run_attempt_bind.mp run
  cases outcome with
  | ok action =>
    obtain ⟨rfl, hout⟩ := run_pure.mp hrest
    cases hout
    exact ⟨inner, last, hfinalize, .inl ⟨action, rfl, List.append_nil inner⟩⟩
  | error e =>
    obtain ⟨status, c, hs, hc, he⟩ :=
      Managed.shows_setCondition left (.reconcileError e.message context.now)
    obtain ⟨_, tail, answer, middle, hp, htail, rfl⟩ := run_attempt_bind.mp hrest
    obtain ⟨_, rfl, hout⟩ := (run_publishStatus hs).mp hp
    obtain ⟨rfl, hout⟩ := run_ofResult.mp htail
    cases hout
    obtain ⟨-, -, hreason, hmessage⟩ := Condition.equivalent_iff.mp he
    exact ⟨inner, left, hfinalize, .inr ⟨e, status, c, _, rfl, hc, hreason, hmessage, rfl⟩⟩

end Parts

/-! ## Every run -/

theorem publishes_of_mem_written {r : Managed k} {x : Exchange (Lifecycle k)}
    (h : x ∈ written (finalizerCall r)) : publishes x.question = false := by
  rw [finalizerCall] at h
  cases hf : hasFinalizer r with
  | true =>
    rw [hf] at h
    exact absurd h List.not_mem_nil
  | false =>
    rw [hf] at h
    rw [List.mem_singleton.mp h]
    rfl

/-- **The outcome is reported.** In every run, whatever the operations and the cluster answer and
whatever the operations make of the resource:

* one outcome is recorded, last, and it is whether the run succeeded;
* a run for a resource that is not deleted ends at once where the finalizer is missing and cannot be
  added, and reports how `sync` ended (`Reported`) otherwise, in a status that is published once and
  as the last call;
* a run for a deleted resource that carries the finalizer has the result of its finalization, and
  notes a failure of that, whatever becomes of the note. -/
theorem outcome_reported (context : Context) (r : Managed k) {log : History k}
    {result : Except ReconcileError Action} (run : Run (Reconcile.run context r) log result) :
    (∃ calls, log = calls ++ [⟨.record (Except.isOk result), ()⟩] ∧
      ∀ x ∈ calls, records x.question = false) ∧
    (r.metadata.isDeleted = false →
      (hasFinalizer r = false ∧ ∃ e, result = .error e ∧
        log = [⟨.cluster (.addFinalizer r.displayName), .error e⟩, ⟨.record false, ()⟩]) ∨
      (log.countP (fun x => publishes x.question) = 1 ∧
        ∃ inner outcome left status answer,
          Run (sync context r.displayName r) inner (outcome, left) ∧
          Reported context inner outcome status answer result ∧
          log = written (finalizerCall r) ++ inner ++
            [⟨.cluster (.patchStatus r.displayName status.encode), answer⟩,
              ⟨.record (Except.isOk result), ()⟩])) ∧
    (r.metadata.isDeleted = true → hasFinalizer r = true →
      ∃ inner left, Run (finalize context r.displayName r) inner (result, left) ∧
        ∀ e, result = .error e → ∃ status c answer,
          Condition.first .synced status.conditions = some c ∧
          c.reason = .reconcileError ∧ c.message = some e.message ∧
          log = inner ++
            [⟨.cluster (.patchStatus r.displayName (Status.encode (k := k) status)), answer⟩,
              ⟨.record false, ()⟩]) := by
  obtain ⟨calls, left, hcalls, rfl, hunrecorded⟩ := recorded_of_run run
  refine ⟨⟨calls, rfl, hunrecorded⟩, fun hd => ?_, fun hd hf => ?_⟩
  · rw [reconcile, read_bind, read_bind, hd] at hcalls
    rcases wanted_of_run hcalls with ⟨hf, e, rfl, rfl⟩ | h
    · exact .inl ⟨hf, e, rfl, rfl⟩
    · obtain ⟨inner, outcome, left, status, answer, hsync, hreported, rfl⟩ := h
      have hbefore : ∀ x ∈ written (finalizerCall r) ++ inner, ¬ publishes x.question = true := by
        intro x hx
        rcases List.mem_append.mp hx with hx | hx
        · simp [publishes_of_mem_written hx]
        · simp [hreported.unpublished x hx]
      refine .inr ⟨?_, inner, outcome, left, status, answer, hsync, hreported, by simp⟩
      rw [List.countP_append, List.countP_append, List.countP_eq_zero.mpr hbefore]
      rfl
  · rw [reconcile, read_bind, read_bind, hd] at hcalls
    obtain ⟨inner, left, hfinalize, h⟩ := deleted_of_run hf hcalls
    refine ⟨inner, left, hfinalize, fun e he => ?_⟩
    rcases h with ⟨action, ha, -⟩ | ⟨e', status, c, answer, he', hc, hreason, hmessage, rfl⟩
    · cases ha.symm.trans he
    · cases he
      cases he'
      exact ⟨status, c, answer, hc, hreason, hmessage, by simp [Except.isOk, Except.toBool]⟩

/-- Why the update of `wantedNetwork` fails. -/
def updateFailure : EngineError :=
  .cloud "cannot update VPC" (.api 500 "down")

/-- `wantedNetwork` cannot be updated, and then its status cannot be published: the failed update is
the result, and what the status tells of. -/
theorem wantedNetwork_failure_reported :
    ∃ inner left status c,
      Run (sync ⟨300, 30, "t0"⟩ "net" wantedNetwork) inner (.error (.engine updateFailure), left) ∧
      Condition.first .synced (Status.conditions (k := .vpc) status) = some c ∧
      c.message = some "cannot update VPC: Cloud API error (500): down" := by
  have run : Run (Reconcile.run ⟨300, 30, "t0"⟩ wantedNetwork)
      ((beforeUpdate ++ [⟨.update wantedNetwork, ⟨.error updateFailure, wantedNetwork⟩⟩]) ++
        [⟨.cluster (.patchStatus "net" (Status.encode (k := .vpc)
          ⟨none, [.reconcileError updateFailure.message "t0"]⟩)), .error (.cluster .unanswered)⟩,
        ⟨.record false, ()⟩]) (.error (.engine updateFailure)) :=
    .ask _ _ (.ask _ _ (.ask _ _ (.ask _ _ (.ask _ _ (.ask _ _ (.ask _ _ (.ask _ _
      (.ask _ _ (.done _)))))))))
  rcases (outcome_reported _ wantedNetwork run).2.1 rfl with ⟨-, e, -, hlog⟩ | ⟨-, h⟩
  · cases hlog
  · obtain ⟨inner, outcome, left, status, answer, hsync, hreported, hlog⟩ := h
    obtain ⟨c, hc, htold⟩ := hreported.told
    cases outcome with
    | error e =>
      cases hreported.failure_first e rfl
      exact ⟨inner, left, status, c, hsync, hc, (htold.failure _ rfl).2⟩
    | ok action =>
      -- the status write that the log shows has failed
      have hfailed := congrArg (fun l => l.head?.bind failure?) (List.append_inj_right' hlog rfl)
      cases answer with
      | ok _ => cases hfailed
      | error e => cases hreported.publishing_next action _ rfl rfl; cases hfailed

end ResourceOperator.Reconcile
