import ResourceOperator.Proofs.External.Sighting
import ResourceOperator.Proofs.Reconcile.Creation
import ResourceOperator.Proofs.Reconcile.Quiet
import ResourceOperator.Proofs.Reconcile.Report

/-!
# When a remote object is deleted

A deleted resource is torn down unless its conditions say that this is under way. Those conditions
were stored by an earlier run, and the observation comes in between: it sets the readiness that
follows from the state it has seen. Where the stored conditions hold at most one readiness, what the
decision reads is therefore this run's observation, and what was stored has no part in it.

Results:
* `World.run_ofOutside_iff`: what is exchanged by an operation on the remote object.
* `isDeleting_seen`: what the decision reads of a resource that has been seen.
* `finalized_of_run`: a finalization in its parts.
* `deletion_follows_observation`: a remote object that is found is deleted by one call, unless it is
  a network or a subnet that is seen being deleted, whatever conditions were stored.
* `staleNetwork_deleted`: this for a network that is available, while its stored condition says that
  it is being deleted.
-/

namespace ResourceOperator

open Dialogue Outside

variable {k : Kind}

/-! ## Calls that delete -/

/-- The call deletes a remote object. -/
def Cloud.Call.deletes : Cloud.Call → Bool
  | .network (.deleteVpc _) => true
  | .network (.deleteSubnet _) => true
  | .controller (.deleteInstance _ _) => true
  | .controller (.deleteKey _) => true
  | .events (.deleteTopic _ _) => true
  | _ => false

/-- The call that deletes the object that a call asks for. -/
def Cloud.Call.deletion : Cloud.Call → Option Cloud.Call
  | .network (.getVpc id) => some (.network (.deleteVpc id))
  | .network (.getSubnet id) => some (.network (.deleteSubnet id))
  | .controller (.getInstance id) => some (.controller (.deleteInstance id false))
  | .controller (.getKey id) => some (.controller (.deleteKey id))
  | .events (.getTopic url name) => some (.events (.deleteTopic url name))
  | _ => none

/-- The call that deletes the remote object of a resource, where the resource tells of one. -/
def Managed.deletion (r : Managed k) : Option Cloud.Call :=
  r.sought.bind Cloud.Call.deletion

theorem Cloud.Call.deletes_of_deletion {call deletion : Cloud.Call}
    (h : call.deletion = some deletion) : deletion.deletes = true := by
  unfold Cloud.Call.deletion at h
  split at h <;> cases h <;> rfl

/-- Where a remote object is asked for there is a call that deletes it. -/
theorem Managed.exists_deletion {r : Managed k} {call : Cloud.Call} (hs : r.sought = some call) :
    ∃ deletion, r.deletion = some deletion := by
  rw [deletion, hs]
  cases k <;> obtain ⟨_, -, rfl⟩ := Option.map_eq_some_iff.mp hs <;> exact ⟨_, rfl⟩

theorem Managed.deletes_of_deletion {r : Managed k} {call : Cloud.Call}
    (h : r.deletion = some call) : call.deletes = true := by
  obtain ⟨get, -, hcall⟩ := Option.bind_eq_some_iff.mp h
  exact Cloud.Call.deletes_of_deletion hcall

namespace World

/-- The deletion that is asked for, if that is what the question is. -/
def deletion? : WorldCall → Option Cloud.Call
  | .outside (.cloud call) => if call.deletes then some call else none
  | _ => none

/-- The deletions that are asked for in a log, in their order. -/
def deletions (log : List (Exchange World)) : List Cloud.Call :=
  log.filterMap fun x => deletion? x.question

/-- A network or a subnet is seen being deleted. -/
def seesDeleting : Exchange World → Bool
  | ⟨.outside (.cloud call), .ok v⟩ => call.deleting v
  | _ => false

theorem deletions_append (first rest : List (Exchange World)) :
    deletions (first ++ rest) = deletions first ++ deletions rest :=
  List.filterMap_append

/-- What is exchanged by an operation on the remote object, and how it ends. -/
theorem run_ofOutside_iff {α : Type} {d : Dialogue Outside α} {log : List (Exchange World)}
    {a : α} :
    Run (ofOutside d) log a ↔ ∃ inner, Run d inner a ∧ log = inner.map ofExchange := by
  have hpass : ∀ (x : Exchange Outside) (log : List (Exchange World)),
      Run (Dialogue.call (I := World) (.outside x.question)) log x.answer ↔
        log = [ofExchange x] := by
    intro x log
    refine run_ask_done_iff.trans ⟨?_, ?_⟩
    · rintro ⟨answer, rfl, hanswer⟩
      exact hanswer ▸ rfl
    · rintro rfl
      exact ⟨x.answer, rfl, rfl⟩
  exact run_forward_iff.trans (exists_congr fun _ => and_congr_right fun _ => answering_map hpass)

/-- What only reads deletes nothing. -/
theorem deletions_of_reading {α : Type} {d : Dialogue Outside α} (hd : Reading d)
    {log : List (Exchange World)} {a : α} (run : Run (ofOutside d) log a) : deletions log = [] := by
  obtain ⟨inner, hinner, rfl⟩ := run_ofOutside_iff.mp run
  have hreads := (hinner.of_asking hd fun _ _ => trivial).1
  refine List.filterMap_eq_nil_iff.mpr fun x hx => ?_
  obtain ⟨y, hy, rfl⟩ := List.mem_map.mp hx
  have hread := hreads y hy
  obtain ⟨q, answer⟩ := y
  rcases q with ((_ | _ | _ | _ | _ | _ | _ | _) | (_ | _ | _ | _ | _ | _ | _ | _ | _ | _) | _ |
    (_ | _ | _ | _)) | _ <;> first | rfl | cases hread

end World

/-! ## What deleting asks -/

namespace Outside

variable {α : Type} {a b : α}

/-- The dialogue asks this one question, or nothing. -/
def AsksOnly (call : Option Cloud.Call) (d : Dialogue Outside α) : Prop :=
  ∀ log a, Run d log a → log.map Exchange.question = (call.map OutsideCall.cloud).toList

theorem asksOnly_pure : AsksOnly none (pure a) := by
  intro log _ run
  obtain ⟨rfl, -⟩ := run_done_iff.mp run
  rfl

/-- A call whose failure is taken for success where it says that the object is not found. -/
theorem asksOnly_cloud {call : Cloud.Call}
    {f : Except Cloud.Failure call.Result → Dialogue Outside α}
    (he : ∀ e, ∃ b, f (.error e) = if e.isNotFound = true then pure a else pure b)
    (hok : ∀ v, f (.ok v) = pure a) : AsksOnly (some call) (cloud call >>= f) := by
  intro log _ run
  obtain ⟨answer, rest, hrest, rfl⟩ := run_ask_iff.mp run
  have hdone : rest = [] := by
    cases answer with
    | ok v =>
      have hrest : Run (f (.ok v)) rest _ := hrest
      rw [hok] at hrest
      exact (run_done_iff.mp hrest).1
    | error e =>
      have hrest : Run (f (.error e)) rest _ := hrest
      obtain ⟨b, hb⟩ := he e
      rw [hb] at hrest
      split at hrest <;> exact (run_done_iff.mp hrest).1
  rw [hdone]
  rfl

end Outside

section Delete

variable (now : String)

/-- What deletes an object that is known by its id asks nothing without one. -/
theorem Managed.asksOnly_deletion {α : Type} {r : Managed k} {get call : String → Cloud.Call}
    {a : α} {d : String → Dialogue Outside α} (hs : r.sought = r.externalName.map get)
    (hcall : ∀ id, (get id).deletion = some (call id))
    (hd : ∀ id, AsksOnly (some (call id)) (d id)) :
    AsksOnly r.deletion (match r.externalName with
      | none => pure a
      | some id => d id) := by
  rw [deletion, hs]
  cases r.externalName with
  | none => exact asksOnly_pure
  | some id =>
    have hdeletion : ((some id).map get).bind Cloud.Call.deletion = some (call id) := hcall id
    rw [hdeletion]
    exact hd id

theorem Vpc.asks_delete (r : Managed .vpc) : AsksOnly r.deletion (delete now r) := by
  refine Managed.asksOnly_deletion (r := r) rfl (fun _ => rfl) fun id => ?_
  exact asksOnly_cloud (fun e => ⟨_, rfl⟩) fun _ => rfl

theorem Subnet.asks_delete (r : Managed .subnet) : AsksOnly r.deletion (delete now r) := by
  refine Managed.asksOnly_deletion (r := r) rfl (fun _ => rfl) fun id => ?_
  exact asksOnly_cloud (fun e => ⟨_, rfl⟩) fun _ => rfl

theorem ResourceInstance.asks_delete (r : Managed .resourceInstance) :
    AsksOnly r.deletion (delete now r) := by
  refine Managed.asksOnly_deletion (r := r) rfl (fun _ => rfl) fun id => ?_
  exact asksOnly_cloud (fun e => ⟨_, rfl⟩) fun _ => rfl

theorem ResourceKey.asks_delete (r : Managed .resourceKey) :
    AsksOnly r.deletion (delete now r) := by
  refine Managed.asksOnly_deletion (r := r) rfl (fun _ => rfl) fun id => ?_
  exact asksOnly_cloud (fun e => ⟨_, rfl⟩) fun _ => rfl

theorem Topic.asks_delete (r : Managed .topic) : AsksOnly r.deletion (delete now r) := by
  have hspec : (r.setCondition (.deleting now)).spec.forProvider = r.spec.forProvider := rfl
  rw [Managed.deletion, Managed.sought, delete, hspec, adminUrl]
  cases (r.spec.forProvider : Parameters).kafkaAdminUrl.filter fun url => !url.isEmpty with
  | none => exact asksOnly_pure
  | some url => exact asksOnly_cloud (fun e => ⟨_, rfl⟩) fun _ => rfl

end Delete

/-- Deleting asks for the deletion of the remote object, and for nothing else. -/
theorem External.asks_delete (now : String) (r : Managed k) :
    AsksOnly r.deletion ((External.ofKind k).delete now r) := by
  cases k with
  | vpc => exact Vpc.asks_delete now r
  | subnet => exact Subnet.asks_delete now r
  | resourceInstance => exact ResourceInstance.asks_delete now r
  | resourceKey => exact ResourceKey.asks_delete now r
  | topic => exact Topic.asks_delete now r

theorem World.deletions_delete {now : String} {r : Managed k} {log : List (Exchange World)}
    {o : Outcome k Unit} (run : Run (ofOutside ((External.ofKind k).delete now r)) log o) :
    deletions log = r.deletion.toList := by
  obtain ⟨inner, hinner, rfl⟩ := run_ofOutside_iff.mp run
  have hasked := External.asks_delete now r inner o hinner
  cases hcall : r.deletion with
  | none =>
    rw [hcall] at hasked
    obtain rfl := List.map_eq_nil_iff.mp hasked
    rfl
  | some call =>
    rw [hcall] at hasked
    obtain ⟨x, rfl, hx⟩ := List.map_eq_singleton_iff.mp hasked
    have hdeletion : deletion? (ofExchange x).question = some call := by
      show deletion? (.outside x.question) = some call
      rw [hx]
      exact if_pos (Managed.deletes_of_deletion hcall)
    exact List.filterMap_cons_some hdeletion

/-! ## What the decision reads -/

/-- Where at most one condition of an aspect is stored, the one that is set is the only one. -/
theorem Condition.any_set {c : Condition} {conditions : List Condition}
    (h : (conditions.countP fun d => d.aspect = c.aspect) ≤ 1) (reason : Condition.Reason) :
    ((c.set conditions).any fun d => d.aspect == c.aspect && d.reason == reason) =
      (c.reason == reason) := by
  induction conditions with
  | nil => simp [set]
  | cons d rest ih =>
    by_cases ha : d.aspect = c.aspect
    · -- the first condition of the aspect is `d`, and there is no other
      have hrest : (rest.any fun d => d.aspect == c.aspect && d.reason == reason) = false := by
        have hzero : (rest.countP fun d => d.aspect = c.aspect) = 0 := by
          rw [List.countP_cons_of_pos (by simp [ha])] at h
          omega
        refine List.any_eq_false.mpr fun x hx => ?_
        have hne := List.countP_eq_zero.mp hzero x hx
        simp_all
      by_cases he : d.equivalent c = true
      · have hreason := (equivalent_iff.mp he).2.2.1
        simp [set, ha, he, hrest, hreason]
      · simp [set, ha, he, hrest]
    · have hcount : (rest.countP fun d => d.aspect = c.aspect) ≤ 1 := by
        rwa [List.countP_cons_of_neg (by simp [ha])] at h
      simp [set, ha, ih hcount]

/-- At most one condition that is stored says whether the resource is ready. -/
def Managed.ReadyOnce (r : Managed k) : Prop :=
  (r.conditions.countP fun c => c.aspect = .ready) ≤ 1

/-- What the decision reads of a resource that has been seen is what has been seen. -/
theorem Reconcile.isDeleting_seen {r : Managed k} (hr : r.ReadyOnce) {filled : Parameters k}
    {o : Observation k} {c : Condition} (hc : c.aspect = .ready) :
    isDeleting (r.seen filled o c) = (c.reason == .deleting) := by
  have hconditions : (r.seen filled o c).conditions = c.set r.conditions := by
    obtain ⟨metadata, spec, _ | status⟩ := r <;> rfl
  rw [isDeleting, hconditions, ← hc]
  refine Condition.any_set ?_ .deleting
  rw [hc]
  exact hr

/-! ## A finalization in its parts -/

namespace Reconcile

open ResourceOperator.Task

variable {context : Context} {name : String} {r : Managed k} {log : History k}

/-- The call leaves the remote object alone: it writes to the cluster, or records the outcome. -/
def aside : LifecycleCall k → Bool
  | .cluster _ => true
  | .record _ => true
  | _ => false

/-- A task that leaves the remote object alone. -/
abbrev Aside {α : Type} (t : Task k α) : Prop :=
  Maintains (watch fun _ q => aside q = true) (fun _ _ => True) t

theorem Aside.questions {α : Type} {t : Task k α} (ht : Aside t)
    {out : Except ReconcileError α × Managed k} (run : Run (t r) log out) :
    ∀ x ∈ log, aside x.question = true := by
  intro x hx
  obtain ⟨before, after, e⟩ := List.append_of_mem hx
  exact run.allowed_of_ensures (ht [] r trivial) e

theorem aside_write (call : Managed k → Option Cluster.Call) : Aside (write call) :=
  maintains_write fun _ _ _ _ _ => ⟨rfl, fun _ => trivial⟩

theorem aside_release : Aside (release name : Task k Action) :=
  maintains_bind (monotone_watch _) (aside_write _) fun _ =>
    maintains_bind (monotone_watch _) (aside_write _) fun _ => maintains_pure _

/-- What a finalization does after the observation. -/
inductive Ending : Outcome k Observed → History k → Prop where
  /-- The observation has failed. -/
  | failed (e : EngineError) (left : Managed k) : Ending (.fail e left) []
  /-- The object is gone, or it is being deleted: it is left alone. -/
  | spared {observed : Observed} {left : Managed k}
      (hleft : (observed.present && !isDeleting left) = false) {rest : History k}
      (hrest : ∀ x ∈ rest, aside x.question = true) : Ending (.ok observed left) rest
  /-- The object is deleted. -/
  | deleted {observed : Observed} {left : Managed k}
      (hleft : (observed.present && !isDeleting left) = true) (o : Outcome k Unit)
      {rest : History k} (hrest : ∀ x ∈ rest, aside x.question = true) :
      Ending (.ok observed left) (⟨.delete left, o⟩ :: rest)

/-- What comes after the decision leaves the remote object alone. -/
theorem aside_tornDown :
    Aside (Task.modify (Managed.setCondition (.reconcileSuccess context.now)) >>= fun _ =>
      publishStatus name >>= fun _ => pure (.requeue context.errorRequeue) : Task k Action) :=
  maintains_bind (monotone_watch _) (maintains_modify fun _ _ _ => trivial) fun _ =>
    maintains_bind (monotone_watch _) (aside_write _) fun _ => maintains_pure _

/-- A finalization looks at the object first, and then deletes it at most. -/
theorem finalized_of_run (hp : r.spec.deletionPolicy = .delete)
    {out : Except ReconcileError Action × Managed k} (run : Run (finalize context name r) log out) :
    ∃ o rest, log = ⟨.observe r, o⟩ :: rest ∧ Ending o rest := by
  rw [finalize, read_bind, hp] at run
  obtain ⟨⟨e | observed, left⟩, rest, rfl, hrest⟩ := run_observe_bind.mp run
  · obtain ⟨rfl, -⟩ := hrest
    exact ⟨_, _, rfl, .failed e left⟩
  refine ⟨_, _, rfl, ?_⟩
  have hrest : Run ((if observed.present = true then tearDown context name else release name) left)
      rest out := hrest
  cases hpresent : observed.present with
  | false =>
    rw [hpresent] at hrest
    exact .spared (by rw [hpresent]; rfl) (aside_release.questions hrest)
  | true =>
    rw [hpresent, if_pos rfl, tearDown_eq, read_bind] at hrest
    cases hdeleting : isDeleting left with
    | true =>
      rw [hdeleting] at hrest
      exact .spared (by rw [hpresent, hdeleting]; rfl) (aside_tornDown.questions hrest)
    | false =>
      rw [hdeleting] at hrest
      obtain ⟨o, last, rfl, hlast⟩ := run_delete_bind.mp hrest
      refine .deleted (by rw [hpresent, hdeleting]; rfl) o ?_
      obtain ⟨e | a, middle⟩ := o
      · obtain ⟨rfl, -⟩ := hlast
        exact fun _ hx => absurd hx List.not_mem_nil
      · exact aside_tornDown.questions hlast

/-- The deletions that follow an observation. -/
def due : Outcome k Observed → List Cloud.Call
  | ⟨.error _, _⟩ => []
  | ⟨.ok observed, left⟩ =>
    if observed.present && !isDeleting left then left.deletion.toList else []

variable {wire : List (Exchange World)}

/-- What leaves the remote object alone deletes nothing. -/
theorem deletions_of_aside (hlog : ∀ x ∈ log, aside x.question = true)
    (h : Answering (World.carryOut (External.ofKind k) context.now) log wire) :
    World.deletions wire = [] := by
  induction h with
  | nil => rfl
  | @cons q answer inner first rest run later ih =>
    obtain ⟨hq, hinner⟩ := List.forall_mem_cons.mp hlog
    rw [World.deletions_append, ih hinner, List.append_nil]
    cases q with
    | cluster c =>
      obtain ⟨_, rfl, -⟩ := run_ask_done_iff.mp run
      rfl
    | record succeeded =>
      obtain ⟨_, rfl, -⟩ := run_ask_done_iff.mp run
      rfl
    | _ => cases hq

theorem deletions_of_ending {o : Outcome k Observed} (he : Ending o log)
    (h : Answering (World.carryOut (External.ofKind k) context.now) log wire) :
    World.deletions wire = due o := by
  cases he with
  | failed e left =>
    cases h
    rfl
  | spared hleft hrest =>
    rw [deletions_of_aside hrest h]
    exact (if_neg (by rw [hleft]; exact Bool.false_ne_true)).symm
  | deleted hleft o hrest =>
    obtain ⟨first, rest, run, later, rfl⟩ := answering_cons.mp h
    rw [World.deletions_append, World.deletions_delete run, deletions_of_aside hrest later,
      List.append_nil]
    exact (if_pos hleft).symm

/-! ## Every run -/

/-- A deleted resource that its finalizer keeps, and that takes its remote object along. -/
structure Leaving (r : Managed k) : Prop where
  deleted : r.metadata.isDeleted = true
  kept : hasFinalizer r = true
  policy : r.spec.deletionPolicy = .delete
  /-- What was stored says at most once whether the resource is ready. -/
  readyOnce : r.ReadyOnce

/-- A run for such a resource begins with an observation, which decides on the deletions. -/
theorem deletions_of_run (hr : Leaving r) {result : Except ReconcileError Action}
    (run : Run (World.reconcile context r) wire result) :
    ∃ seen rest o, wire = seen ++ rest ∧
      Run (World.ofOutside ((External.ofKind k).observe context.now r)) seen o ∧
      World.deletions wire = due o := by
  obtain ⟨log, hrun, hlog⟩ := run_forward_iff.mp run
  obtain ⟨calls, last, hcalls, rfl, -⟩ := recorded_of_run hrun
  rw [reconcile, read_bind, read_bind, hr.deleted] at hcalls
  obtain ⟨inner, left, hfinalize, hend⟩ := deleted_of_run hr.kept hcalls
  obtain ⟨o, rest, rfl, ending⟩ := finalized_of_run hr.policy hfinalize
  -- what comes after the finalization is written to the cluster
  obtain ⟨tail, htail, e⟩ : ∃ tail : History k, (∀ x ∈ tail, aside x.question = true) ∧
      calls ++ [⟨.record result.isOk, ()⟩] = ⟨.observe r, o⟩ :: (rest ++ tail) := by
    rcases hend with ⟨_, -, rfl⟩ | ⟨_, _, _, _, -, -, -, -, rfl⟩
    · exact ⟨[_], List.forall_mem_singleton.mpr rfl, rfl⟩
    · refine ⟨_, fun x hx => ?_, List.append_assoc _ _ _⟩
      rcases List.mem_append.mp hx with hx | hx <;> rw [List.mem_singleton.mp hx] <;> rfl
  rw [e] at hlog
  obtain ⟨seen, after, hseen, hafter, rfl⟩ := answering_cons.mp hlog
  obtain ⟨middle, final, hmiddle, hfinal, rfl⟩ := answering_append.mp hafter
  refine ⟨seen, middle ++ final, o, rfl, hseen, ?_⟩
  have hobserved : World.deletions seen = [] :=
    World.deletions_of_reading ((External.reading_ofKind k).observe context.now r) hseen
  rw [World.deletions_append, World.deletions_append, hobserved, deletions_of_ending ending hmiddle,
    deletions_of_aside htail hfinal, List.append_nil]
  rfl

/-- What an observation that has found the object decides. -/
theorem due_of_found (hr : r.ReadyOnce) {inner : List (Exchange Outside)} {o : Outcome k Observed}
    (sighting : Sighting r inner o) {observed : Observed} {left : Managed k}
    (ho : o = .ok observed left) (hp : observed.present = true) :
    ∃ (call : Cloud.Call) (v : call.Result) (looked : List (Exchange Cloud.Catalog)),
      r.sought = some call ∧ inner = ⟨.cloud call, .ok v⟩ :: looked.map onCatalog ∧
      due o = if call.deleting v then [] else r.deletion.toList := by
  subst ho
  cases sighting with
  | untold _ _ => cases hp
  | unknown _ _ => cases hp
  | past _ _ => cases hp
  | @found call hs v hv looked hl _ _ filled ob c haspect hreason hleft =>
    refine ⟨call, v, looked, hs, rfl, ?_⟩
    have hdeleting : isDeleting (r.seen filled ob c) = call.deleting v := by
      rw [isDeleting_seen hr haspect]
      cases hv : call.deleting v with
      | true => exact beq_iff_eq.mpr (hreason.mpr hv)
      | false =>
        refine beq_eq_false_iff_ne.mpr fun h => ?_
        rw [hreason.mp h] at hv
        cases hv
    have hdeletion : (r.seen filled ob c).deletion = r.deletion := by
      rw [Managed.deletion, hleft, Managed.deletion]
    rw [Outcome.ok, due, hp, hdeleting, hdeletion]
    cases call.deleting v <;> rfl

/-- A lookup in the catalog tells of no deletion. -/
theorem not_seesDeleting_onCatalog (looked : List (Exchange Cloud.Catalog)) :
    ((looked.map onCatalog).map World.ofExchange).any World.seesDeleting = false := by
  refine List.any_eq_false.mpr fun x hx => ?_
  obtain ⟨y, hy, rfl⟩ := List.mem_map.mp hx
  obtain ⟨⟨q, answer⟩, -, rfl⟩ := List.mem_map.mp hy
  cases answer <;> exact Bool.false_ne_true

/-! ## Two resources that differ in their status -/

end Reconcile

section Alike

variable {answers : Answers} {now now' : String}

/-- Two observations come to the same, but for the resource that they leave. -/
def SameResult (answers : Answers) (d d' : Dialogue Outside (Outcome k Observed)) : Prop :=
  (d'.run answers).result = (d.run answers).result

theorem sameResult_known {r r' : Managed k} (hm : r'.metadata = r.metadata)
    {d d' : String → Dialogue Outside (Outcome k Observed)}
    (hd : ∀ id, SameResult answers (d id) (d' id)) :
    SameResult answers
      (match r.externalName with
        | none => pure (.ok .absent r)
        | some id => d id)
      (match r'.externalName with
        | none => pure (.ok .absent r')
        | some id => d' id) := by
  rw [Managed.externalName, Managed.externalName, hm]
  cases r.metadata.externalName with
  | none => exact rfl
  | some id => exact hd id

/-- An observation that takes the object for absent where it is not found. -/
theorem sameResult_cloud {r r' : Managed k} {call : Cloud.Call}
    {failure : Cloud.Failure → EngineError}
    {f f' : Except Cloud.Failure call.Result → Dialogue Outside (Outcome k Observed)}
    (he : ∀ e, f (.error e) =
      if e.isNotFound = true then pure (.ok .absent r) else pure (.fail (failure e) r))
    (he' : ∀ e, f' (.error e) =
      if e.isNotFound = true then pure (.ok .absent r') else pure (.fail (failure e) r'))
    (hok : ∀ v, SameResult answers (f (.ok v)) (f' (.ok v))) :
    SameResult answers (cloud call >>= f) (cloud call >>= f') := by
  rw [SameResult, run_cloud, run_cloud]
  cases answers (.cloud call) with
  | ok v => exact hok v
  | error e =>
    rw [he, he']
    split <;> rfl

theorem sameResult_bind {β : Type} {d : Dialogue Outside β}
    {f f' : β → Dialogue Outside (Outcome k Observed)}
    (hf : ∀ b, SameResult answers (f b) (f' b)) : SameResult answers (d >>= f) (d >>= f') := by
  rw [SameResult, bind_eq, bind_eq, run_bind, run_bind]
  exact hf _

theorem Vpc.observe_alike {r r' : Managed .vpc} (hm : r'.metadata = r.metadata)
    (hs : r'.spec = r.spec) : SameResult answers (observe now r) (observe now' r') := by
  refine sameResult_known hm fun id => ?_
  refine sameResult_cloud (fun _ => rfl) (fun _ => rfl) fun v => ?_
  rw [hs]
  rfl

theorem Subnet.observe_alike {r r' : Managed .subnet} (hm : r'.metadata = r.metadata)
    (hs : r'.spec = r.spec) : SameResult answers (observe now r) (observe now' r') := by
  refine sameResult_known hm fun id => ?_
  refine sameResult_cloud (fun _ => rfl) (fun _ => rfl) fun v => ?_
  rw [hs]
  rfl

theorem ResourceInstance.observe_alike {r r' : Managed .resourceInstance}
    (hm : r'.metadata = r.metadata) (hs : r'.spec = r.spec) :
    SameResult answers (observe now r) (observe now' r') := by
  refine sameResult_known hm fun id => ?_
  refine sameResult_bind fun found => ?_
  rcases found with e | _ | remote
  · rfl
  · rfl
  · dsimp only
    rw [hs]
    refine sameResult_bind fun ⟨late, filled⟩ => ?_
    cases late with
    | error e => rfl
    | ok changed =>
      refine sameResult_bind fun upToDate => ?_
      cases upToDate <;> rfl

theorem ResourceKey.observe_alike {r r' : Managed .resourceKey} (hm : r'.metadata = r.metadata)
    (hs : r'.spec = r.spec) : SameResult answers (observe now r) (observe now' r') := by
  refine sameResult_known hm fun id => ?_
  refine sameResult_bind fun found => ?_
  rcases found with e | _ | remote
  · rfl
  · rfl
  · have hdetails : connectionDetails r' remote = connectionDetails r remote := by
      rw [connectionDetails, connectionDetails, hs]
    dsimp only
    rw [hdetails, hs]
    rfl

theorem Topic.observe_alike {r r' : Managed .topic} (hm : r'.metadata = r.metadata)
    (hs : r'.spec = r.spec) : SameResult answers (observe now r) (observe now' r') := by
  have hname : topicName r' = topicName r := by
    rw [topicName, topicName, Managed.externalName, Managed.externalName, Managed.displayName,
      Managed.displayName, hm]
  rw [observe, observe, hname, hm, hs]
  cases adminUrl r.spec.forProvider with
  | error e => cases r.metadata.isDeleted <;> rfl
  | ok url => exact sameResult_cloud (fun _ => rfl) (fun _ => rfl) fun t => rfl

/-- What an observation comes to does not depend on the status. -/
theorem External.observe_alike {r r' : Managed k} (hm : r'.metadata = r.metadata)
    (hs : r'.spec = r.spec) :
    SameResult answers ((External.ofKind k).observe now r) ((External.ofKind k).observe now' r') := by
  cases k with
  | vpc => exact Vpc.observe_alike hm hs
  | subnet => exact Subnet.observe_alike hm hs
  | resourceInstance => exact ResourceInstance.observe_alike hm hs
  | resourceKey => exact ResourceKey.observe_alike hm hs
  | topic => exact Topic.observe_alike hm hs

/-- Nor does the call for the remote object. -/
theorem Managed.sought_alike {r r' : Managed k} (hm : r'.metadata = r.metadata)
    (hs : r'.spec = r.spec) : r'.sought = r.sought := by
  cases k <;> simp only [sought, externalName, Topic.topicName, displayName, hm, hs]

theorem Managed.reads_of_sought {r : Managed k} {call : Cloud.Call} (hs : r.sought = some call) :
    Outside.reads (.cloud call) = true := by
  cases k <;> obtain ⟨_, -, rfl⟩ := Option.map_eq_some_iff.mp hs <;> rfl

end Alike

namespace Reconcile

/-- Where the same is answered to what is read, the same deletions are due, whatever was stored. -/
theorem due_alike {answers : Answers} {now now' : String} {r r' : Managed k} (hr : r.ReadyOnce)
    (hr' : r'.ReadyOnce) (hm : r'.metadata = r.metadata) (hs : r'.spec = r.spec)
    {seen seen' : List (Exchange World)} {o o' : Outcome k Observed}
    (run : Run (World.ofOutside ((External.ofKind k).observe now r)) seen o)
    (run' : Run (World.ofOutside ((External.ofKind k).observe now' r')) seen' o')
    (hf : ∀ x ∈ seen, World.Fixed answers x) (hf' : ∀ x ∈ seen', World.Fixed answers x) :
    due o' = due o := by
  have hresult : o'.result = o.result := by
    rw [← World.run_eq ((External.reading_ofKind k).observe now r) run hf,
      ← World.run_eq ((External.reading_ofKind k).observe now' r') run' hf']
    exact External.observe_alike hm hs
  obtain ⟨inner, hinner, rfl⟩ := World.run_ofOutside_iff.mp run
  obtain ⟨inner', hinner', rfl⟩ := World.run_ofOutside_iff.mp run'
  have sighting := External.sighting_of_run hinner
  have sighting' := External.sighting_of_run hinner'
  obtain ⟨result, left⟩ := o
  obtain ⟨result', left'⟩ := o'
  obtain rfl : result' = result := hresult
  rcases result' with e | observed
  · rfl
  cases hp : observed.present with
  | false => simp [due, hp]
  | true =>
    obtain ⟨call, v, looked, hcall, rfl, hdue⟩ := due_of_found hr sighting rfl hp
    obtain ⟨call', v', looked', hcall', rfl, hdue'⟩ := due_of_found hr' sighting' rfl hp
    obtain rfl : call' = call := by
      rw [Managed.sought_alike hm hs, hcall] at hcall'
      exact (Option.some.inj hcall').symm
    -- both have been told the same of the object
    have hread := Managed.reads_of_sought hcall
    have hanswer : Except.ok v = answers (.cloud call') := hf _ List.mem_cons_self hread
    have hanswer' : Except.ok v' = answers (.cloud call') := hf' _ List.mem_cons_self hread
    obtain rfl : v' = v := Except.ok.inj (hanswer'.trans hanswer.symm)
    rw [hdue, hdue', Managed.deletion, Managed.deletion, Managed.sought_alike hm hs]

/-- **Deletion follows the observation.** Every run for a deleted resource that its finalizer keeps,
that takes its remote object along, and whose stored conditions say at most once whether it is
ready, begins with an observation. Where that finds the object, the run asks for its deletion once
and for no other, unless a network or a subnet was seen being deleted: then it asks for none.

What was stored has no part in that: two resources that differ in their status alone ask for the
same deletions, where the same is answered to what they read. -/
theorem deletion_follows_observation {context : Context} {r : Managed k} (hr : Leaving r) :
    (∀ {log result}, Run (World.reconcile context r) log result →
      ∃ seen rest o, log = seen ++ rest ∧
        Run (World.ofOutside ((External.ofKind k).observe context.now r)) seen o ∧
        ∀ observed left, o = .ok observed left → observed.present = true →
          ∃ call, r.deletion = some call ∧
            World.deletions log = if seen.any World.seesDeleting then [] else [call]) ∧
    ∀ {r' : Managed k} {context' answers log log' result result'}, r'.metadata = r.metadata →
      r'.spec = r.spec → r'.ReadyOnce →
      Run (World.reconcile context r) log result → (∀ x ∈ log, World.Fixed answers x) →
      Run (World.reconcile context' r') log' result' → (∀ x ∈ log', World.Fixed answers x) →
        World.deletions log' = World.deletions log := by
  refine ⟨fun {log result} run => ?_, fun {r' context' answers log log' result result'} hm hs
    hready run hf run' hf' => ?_⟩
  · obtain ⟨seen, rest, o, rfl, hseen, hdeletions⟩ := deletions_of_run hr run
    refine ⟨seen, rest, o, rfl, hseen, fun observed left ho hp => ?_⟩
    obtain ⟨inner, hinner, rfl⟩ := World.run_ofOutside_iff.mp hseen
    obtain ⟨get, v, looked, hget, rfl, hdue⟩ :=
      due_of_found hr.readyOnce (External.sighting_of_run hinner) ho hp
    obtain ⟨call, hcall⟩ := Managed.exists_deletion hget
    refine ⟨call, hcall, ?_⟩
    have hsees : (((⟨.cloud get, .ok v⟩ :: looked.map onCatalog : List (Exchange Outside)).map
        World.ofExchange).any World.seesDeleting) = get.deleting v := by
      rw [List.map_cons, List.any_cons, not_seesDeleting_onCatalog, Bool.or_false]
      rfl
    rw [hdeletions, hdue, hsees, hcall]
    rfl
  · have hr' : Leaving r' := by
      refine ⟨?_, ?_, ?_, hready⟩
      · rw [hm]
        exact hr.deleted
      · rw [hasFinalizer, hm]
        exact hr.kept
      · rw [hs]
        exact hr.policy
    obtain ⟨seen, rest, o, rfl, hseen, hdeletions⟩ := deletions_of_run hr run
    obtain ⟨seen', rest', o', rfl, hseen', hdeletions'⟩ := deletions_of_run hr' run'
    rw [hdeletions, hdeletions']
    exact due_alike hr.readyOnce hready hm hs hseen hseen'
      (fun x hx => hf x (List.mem_append_left _ hx)) fun x hx => hf' x (List.mem_append_left _ hx)

/-- A deleted network with an id. Its stored condition says that the network is being deleted. -/
def staleNetwork : Managed .vpc where
  metadata := { Metadata.empty with
    annotations := some [(Metadata.externalNameKey, "v-1")]
    name := some "net", finalizers := some [Cluster.finalizer],
    deletionTimestamp := some ⟨0, false⟩ }
  spec := ⟨⟨none, none, none, none⟩, .delete, none, ()⟩
  status := some ⟨none, [.deleting "t0"]⟩

theorem leaving_staleNetwork : Leaving staleNetwork where
  deleted := rfl
  kept := by decide
  policy := rfl
  readyOnce := by
    rw [Managed.ReadyOnce]
    decide

/-- The network in the cloud, in this state. -/
def cloudNetwork (status : Cloud.NetworkState) : Vpc.Remote :=
  ⟨"v-1", "", "", "net", false, none, status, none, none, none, none⟩

/-- The observation of `staleNetwork`, in this state. -/
def stateSeen (status : Cloud.NetworkState) : Exchange World :=
  ⟨.outside (.cloud (.network (.getVpc "v-1"))), .ok (cloudNetwork status)⟩

/-- A network that is available is deleted, whatever its stored condition says; one that is seen
being deleted is left alone. -/
theorem staleNetwork_deleted :
    ∃ log log' result result',
      Run (World.reconcile ⟨300, 30, "t1"⟩ staleNetwork) (stateSeen .available :: log) result ∧
      World.deletions (stateSeen .available :: log) = [.network (.deleteVpc "v-1")] ∧
      Run (World.reconcile ⟨300, 30, "t1"⟩ staleNetwork) (stateSeen .deleting :: log') result' ∧
      World.deletions (stateSeen .deleting :: log') = [] := by
  have decided : ∀ {state log result},
      Run (World.reconcile ⟨300, 30, "t1"⟩ staleNetwork) (stateSeen state :: log) result →
        World.deletions (stateSeen state :: log) =
          if state = .deleting then [] else [.network (.deleteVpc "v-1")] := by
    intro state log result run
    obtain ⟨seen, rest, o, hlog, hseen, hfound⟩ :=
      (deletion_follows_observation leaving_staleNetwork).1 run
    have observed : ∃ upToDate late left,
        Run (World.ofOutside ((External.ofKind .vpc).observe "t1" staleNetwork)) [stateSeen state]
          (.ok ⟨true, upToDate, late, []⟩ left) := ⟨_, _, _, .ask _ _ (.done _)⟩
    obtain ⟨upToDate, late, left, observed⟩ := observed
    obtain ⟨rfl, rfl⟩ := observed.unique hseen (e := hlog)
    obtain ⟨call, hcall, hdeletions⟩ := hfound _ _ rfl rfl
    cases hcall
    rw [hdeletions]
    cases state <;> rfl
  have deleted : ∃ status result, Run (World.reconcile ⟨300, 30, "t1"⟩ staleNetwork)
      (stateSeen .available :: [⟨.outside (.cloud (.network (.deleteVpc "v-1"))), .ok ()⟩,
        ⟨.cluster (.patchStatus "net" status), .ok ()⟩, ⟨.record true, ()⟩]) result :=
    ⟨_, _, .ask _ _ (.ask _ _ (.ask _ _ (.ask _ _ (.done _))))⟩
  have spared : ∃ status result, Run (World.reconcile ⟨300, 30, "t1"⟩ staleNetwork)
      (stateSeen .deleting :: [⟨.cluster (.patchStatus "net" status), .ok ()⟩,
        ⟨.record true, ()⟩]) result :=
    ⟨_, _, .ask _ _ (.ask _ _ (.ask _ _ (.done _)))⟩
  obtain ⟨status, result, deleted⟩ := deleted
  obtain ⟨status', result', spared⟩ := spared
  exact ⟨_, _, result, result', deleted, decided deleted, spared, decided spared⟩

end Reconcile

end ResourceOperator
