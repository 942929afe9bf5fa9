import ResourceOperator.Proofs.Reconcile.Trace
import ResourceOperator.Proofs.Resolution.Repeated
import ResourceOperator.Proofs.Resolution.Specification
import ResourceOperator.Reconcile.World

/-!
# When a field waits

A field waits where it resolves to no value. That is so where an object is designated, by a
reference or by a selector, and has no value yet (`Designates`). It is also so where there is
nothing to resolve from: no value, no reference and no selector (`Unset`). Nobody is asked about
such a field, so that it waits whatever else there is. Each reconciliation of its resource ends
there, before the remote object is looked at, and reports that it waits.

Results:
* `Resolution.pending_iff`: what a field is resolved to that waits.
* `Takes.pending_iff`: the same of the field of a resource.
* `sync_of_unset`: a resource whose field is not set waits, and asks nobody.
* `field_waits_iff`: when a field waits, and what becomes of a resource that does not set it.
* `unplacedSubnet_waits`: a subnet that names no network waits for one.
-/

namespace ResourceOperator

open Dialogue Outside

variable {k j : Kind} {t : Taking k j}

/-! ## Fields -/

namespace Resolution

variable {request : Request k} {looked : List (Exchange (Lookup k))} {found : Resolution}
  {target : Managed k}

/-- There is nothing to resolve a field from. -/
structure Request.Unset (request : Request k) : Prop where
  current : request.current = ""
  reference : request.reference = none
  selector : request.selector = none

/-- An object has been found by the reference of a field, or as the only one that its selector
picks. -/
inductive Designates (request : Request k) : List (Exchange (Lookup k)) → Managed k → Prop where
  | referenced {name : String} (target : Managed k) (hreference : request.reference = some ⟨name⟩) :
    Designates request [⟨LookupCall.get name, .ok target⟩] target
  | selected {selector : Selector} {objects : List (Managed k)} {target : Managed k}
    (hselector : request.selector = some selector) (honly : picked selector objects = [target]) :
    Designates request [⟨LookupCall.list, .ok objects⟩] target

/-- A field has nothing to resolve from, or the object that it designates has no value. -/
def Request.Valueless (request : Request k) (looked : List (Exchange (Lookup k))) : Prop :=
  request.Unset ∨ ∃ target, Designates request looked target ∧ request.extract target = ""

theorem not_designates_nil : ¬ Designates request [] target := nofun

theorem isPending_iff : found.isPending = true ↔ found.value = "" := String.isEmpty_iff

/-- A field that has been resolved waits where it has nothing to resolve from, or where the object
that it designates has no value. -/
theorem pending_iff (h : Resolves request looked (.ok found)) :
    found.isPending = true ↔ request.Valueless looked := by
  rw [isPending_iff]
  cases h with
  | kept hcurrent hselector =>
    refine iff_of_false hcurrent ?_
    rintro (unset | ⟨target, hd, -⟩)
    · exact hcurrent unset.current
    · exact not_designates_nil hd
  | @fetched reference target hopen hreference =>
    obtain ⟨name⟩ := reference
    constructor
    · exact fun hvalue => .inr ⟨target, .referenced target hreference, hvalue⟩
    · rintro (unset | ⟨_, hd, hvalue⟩)
      · cases unset.reference.symm.trans hreference
      · cases hd
        exact hvalue
  | matched hreference hselector honly =>
    constructor
    · exact fun hvalue => .inr ⟨_, .selected hselector honly, hvalue⟩
    · rintro (unset | ⟨_, hd, hvalue⟩)
      · cases unset.selector.symm.trans hselector
      · -- the selector picks one object only, so that it is the same
        cases hd with
        | selected hselector' honly' =>
          cases hselector.symm.trans hselector'
          cases honly.symm.trans honly'
          exact hvalue
  | nothing hcurrent hreference hselector =>
    exact iff_of_true rfl (.inl ⟨hcurrent, hreference, hselector⟩)

theorem resolve_of_unset (h : request.Unset) : resolve request = .done (.ok ⟨"", none⟩) :=
  resolve_by_nothing (not_isKept_iff.mpr (.inl h.current)) h.reference h.selector

end Resolution

/-! ## Resources -/

variable {r left : Managed k} {resolved : Resolved}

/-- The field that a resource takes, as one to resolve. -/
abbrev Taking.requestOf (t : Taking k j) (r : Managed k) : Resolution.Request j :=
  t.request r.spec.forProvider

/-- What a resource comes to says that it waits where what its field resolves to does. -/
theorem Taking.pending_of_conclude {result : Except EngineError Resolution}
    (h : t.conclude r result = .ok resolved left) :
    ∃ found, result = .ok found ∧
      resolved.pending = if found.isPending then [(t.requestOf r).field] else [] := by
  cases result with
  | error e => cases h
  | ok found =>
    refine ⟨found, rfl, ?_⟩
    cases hp : found.isPending with
    | true =>
      rw [conclude, if_pos hp] at h
      cases h
      rfl
    | false =>
      rw [conclude, if_neg (Bool.eq_false_iff.mp hp)] at h
      cases h
      rfl

/-- A resource waits for its field, and for no other, where that has no value. -/
theorem Takes.pending_iff (ht : Takes k j t) {log : List (Exchange Outside)}
    (run : Run ((External.ofKind k).resolveReferences r) log (.ok resolved left)) :
    ∃ looked, log = looked.map onLookup ∧
      (resolved.pending = [(t.requestOf r).field] ↔ (t.requestOf r).Valueless looked) ∧
      (resolved.pending = [] ↔ ¬ (t.requestOf r).Valueless looked) := by
  rw [ht.resolveReferences_eq] at run
  obtain ⟨looked, result, hlooked, rfl, hout⟩ := Taking.run_resolve_iff.mp run
  obtain ⟨found, rfl, hpending⟩ := Taking.pending_of_conclude hout.symm
  refine ⟨looked, rfl, ?_⟩
  rw [← Resolution.pending_iff (Resolution.resolves_of_run hlooked), hpending]
  cases found.isPending <;> simp

/-- A resource whose field is not set waits for it, and asks nobody. -/
theorem Takes.resolveReferences_of_unset (ht : Takes k j t) (h : (t.requestOf r).Unset) :
    (External.ofKind k).resolveReferences r =
      .done (.ok ⟨false, [(t.requestOf r).field]⟩ r) := by
  rw [ht.resolveReferences_eq, Taking.resolve_eq, Resolution.resolve_of_unset h]
  rfl

/-! ## Reconciliations -/

namespace Reconcile

open ResourceOperator.Task

variable {context : Context} {now name : String} {past : List (Exchange World)}

/-- A resource that says that it waits for a field. -/
def awaiting (context : Context) (field : String) (r : Managed k) : Managed k :=
  r.setCondition (.reconcileError (pendingMessage [field]) context.now)

/-- The status of a resource is published. -/
def publication (left : Managed k) (status : Status k) : WorldCall :=
  .cluster (.patchStatus left.displayName status.encode)

/-- What is asked about a resource that is left alone: to keep it, to publish its status, and to
record how that has gone. Nothing is asked of the outside. -/
inductive Idle (left : Managed k) : WorldCall → Prop where
  | kept : Idle left (.cluster (.addFinalizer left.displayName))
  | published {status : Status k} (hstatus : left.status = some status) :
    Idle left (publication left status)
  | recorded (succeeded : Bool) : Idle left (.record succeeded)

/-- Where a reconciliation comes to an action, it has published the status, and comes to look again
soon. -/
def Reports (context : Context) (left : Managed k) (log : List (Exchange World))
    (result : Except ReconcileError Action) : Prop :=
  ∀ action, result = .ok action → action = .requeue context.errorRequeue ∧
    ∃ status, left.status = some status ∧ ⟨publication left status, .ok ()⟩ ∈ log

/-- A reconciliation that does no more than to report on a resource. -/
structure Waits (context : Context) (left : Managed k) (log : List (Exchange World))
    (result : Except ReconcileError Action) : Prop where
  idle : ∀ x ∈ log, Idle left x.question
  reports : Reports context left log result

/-- A resource whose field is not set waits for it: nobody is asked, and that is noted. -/
theorem sync_of_unset (ht : Takes k j t) (h : (t.requestOf r).Unset) :
    (sync context name r).forward (World.carryOut (External.ofKind k) context.now) =
      .done (.ok (.requeue context.errorRequeue), awaiting context (t.requestOf r).field r) := by
  show (World.ofOutside ((External.ofKind k).resolveReferences r)).bind _ = _
  rw [ht.resolveReferences_of_unset h]
  rfl

/-- The rule by which a reconciliation is idle. -/
abbrev idling (now : String) (left : Managed k) : Rule (Lifecycle k) (List (Exchange World)) :=
  (watch fun _ => Idle left).through (World.carryOut (External.ofKind k) now)

theorem idle_sync (ht : Takes k j t) (h : (t.requestOf r).Unset) {left : Managed k}
    {post : List (Exchange World) → Except ReconcileError Action × Managed k → Prop} :
    (sync context name r).Ensures (idling context.now left) post past ↔
      post past (.ok (.requeue context.errorRequeue),
        awaiting context (t.requestOf r).field r) := by
  refine (ensures_forward _ _).symm.trans ?_
  rw [sync_of_unset ht h]
  exact Iff.rfl

/-- A write that is idle may come to anything. -/
theorem idle_write {call : Managed k → Option Cluster.Call}
    {post : List (Exchange World) → Except ReconcileError Unit × Managed k → Prop}
    (hc : ∀ c, call r = some c → Idle left (.cluster c))
    (hpost : ∀ past answer, post past (answer, r)) :
    (write call r).Ensures (idling now left) post past := by
  rw [ensures_write]
  split
  · exact hpost _ _
  · next c hcall => exact ⟨hc c hcall, fun answer => hpost _ answer⟩

/-- Once the status is published it has been reported on the resource, unless that fails. -/
theorem idle_publish {status : Status k} (hstatus : left.status = some status) :
    (((publishStatus left.displayName).attempt >>= fun published =>
      ofResult (.ok (.requeue context.errorRequeue)) >>= fun action =>
        ofResult published >>= fun _ => (pure action : Task k Action)) left).Ensures
      (idling now left) (fun past out => Reports context left past out.1) past := by
  rw [Task.ensures_bind, ensures_attempt, publishStatus, ensures_write, hstatus]
  refine ⟨.published hstatus, fun answer => ?_⟩
  cases answer with
  | error e => exact fun _ he => nomatch he
  | ok _ =>
    rintro _ ⟨⟩
    exact ⟨rfl, status, hstatus, List.mem_append_right _ (List.mem_singleton.mpr rfl)⟩

theorem idle_wanted (ht : Takes k j t) (h : (t.requestOf r).Unset) :
    (reconcileWanted context r.displayName r).Ensures
      (idling context.now (awaiting context (t.requestOf r).field r))
      (fun past out => Reports context (awaiting context (t.requestOf r).field r) past out.1)
      past := by
  rw [reconcileWanted_eq, read_bind, when_write, Task.ensures_bind]
  refine idle_write (fun c hc => ?_) fun past answer => ?_
  · obtain ⟨-, hcall⟩ := Option.ite_none_right_eq_some.mp hc
    cases hcall
    exact .kept
  · cases answer with
    | error e =>
      -- without a finalizer it comes to no action
      exact fun _ he => nomatch he
    | ok _ =>
      rw [after_ok, Task.ensures_bind, ensures_attempt, idle_sync ht h, after_ok]
      exact idle_publish rfl

/-- A wanted resource whose field is not set is left alone. -/
theorem idle_reconcile (context : Context) (ht : Takes k j t) (h : (t.requestOf r).Unset)
    (hwanted : r.metadata.isDeleted = false) :
    (World.reconcile context r).Ensures
      (watch fun _ => Idle (awaiting context (t.requestOf r).field r))
      (Reports context (awaiting context (t.requestOf r).field r)) [] := by
  refine (ensures_forward _ _).mpr ?_
  rw [Reconcile.run, Dialogue.ensures_bind, reconcile, read_bind, read_bind, hwanted]
  refine (idle_wanted ht h).mono ((monotone_watch _).through _) fun past out hreports => ?_
  refine ⟨.recorded _, fun _ action haction => ?_⟩
  obtain ⟨hsoon, status, hstatus, hmem⟩ := hreports action haction
  exact ⟨hsoon, status, hstatus, List.mem_append_left _ hmem⟩

theorem waits_of_unset (ht : Takes k j t) (h : (t.requestOf r).Unset)
    (hwanted : r.metadata.isDeleted = false) {log : List (Exchange World)}
    {result : Except ReconcileError Action} (run : Run (World.reconcile context r) log result) :
    Waits context (awaiting context (t.requestOf r).field r) log result := by
  have hidle := idle_reconcile context ht h hwanted
  refine ⟨fun x hx => ?_, run.post_of_ensures hidle⟩
  obtain ⟨before, after, e⟩ := List.append_of_mem hx
  exact run.allowed_of_ensures hidle e

end Reconcile

/-- **When a field waits.** However its references are answered, a resource of a kind that takes a
field waits for that field, and for no other, exactly where the object that the field designates has
no value, or the field has nothing to resolve from. In the second case every reconciliation, while
the resource is wanted, reports that it waits, asks nothing of the outside, and is due again. -/
theorem field_waits_iff (ht : Takes k j t) (r : Managed k) :
    (∀ (log : List (Exchange Outside)) (resolved : Resolved) (left : Managed k),
      Run ((External.ofKind k).resolveReferences r) log (.ok resolved left) →
      ∃ looked, log = looked.map onLookup ∧
        (resolved.pending = [(t.requestOf r).field] ↔ (t.requestOf r).Valueless looked) ∧
        (resolved.pending = [] ↔ ¬ (t.requestOf r).Valueless looked)) ∧
    ((t.requestOf r).Unset → r.metadata.isDeleted = false →
      ∀ (context : Reconcile.Context) (log : List (Exchange World))
        (result : Except ReconcileError Action), Run (World.reconcile context r) log result →
        Reconcile.Waits context (Reconcile.awaiting context (t.requestOf r).field r) log result) :=
  ⟨fun _ _ _ run => ht.pending_iff run, fun h hwanted _ _ _ run =>
    Reconcile.waits_of_unset ht h hwanted run⟩

/-- A subnet that names no network, and is kept. -/
def unplacedSubnet : Managed .subnet where
  metadata := { Metadata.empty with name := some "sn", finalizers := some [Cluster.finalizer] }
  spec :=
    { forProvider :=
        ⟨⟨none, none, none, none, none, none, none, none, none⟩, .byTotalCount 256 "us-south-1"⟩
      deletionPolicy := .delete
      connectionSecret := none
      connectionTemplates := () }
  status := none

/-- What is published of a subnet that names no network. -/
def waitingStatus : Status .subnet where
  conditions := [.reconcileError "waiting for vpc to be resolved" "t0"]
  atProvider := none

/-- A subnet that names no network waits for one. -/
theorem unplacedSubnet_waits :
    (Subnet.taking.requestOf unplacedSubnet).Valueless [] ∧
    Reconcile.Waits ⟨300, 30, "t0"⟩
      (Reconcile.awaiting ⟨300, 30, "t0"⟩ "vpc" unplacedSubnet)
      [⟨Reconcile.publication unplacedSubnet waitingStatus, .ok ()⟩, ⟨.record true, ()⟩]
      (.ok (.requeue 30)) := by
  have resolution : Run ((External.ofKind .subnet).resolveReferences unplacedSubnet) []
      (.ok ⟨false, ["vpc"]⟩ unplacedSubnet) := .done _
  have run : Run (World.reconcile ⟨300, 30, "t0"⟩ unplacedSubnet)
      [⟨Reconcile.publication unplacedSubnet waitingStatus, .ok ()⟩, ⟨.record true, ()⟩]
      (.ok (.requeue 30)) :=
    .ask _ _ (.ask _ _ (.done _))
  constructor
  · obtain ⟨looked, hlooked, hwaits, -⟩ :=
      (field_waits_iff .subnet unplacedSubnet).1 _ _ _ resolution
    obtain rfl := List.map_eq_nil_iff.mp hlooked.symm
    exact hwaits.mp rfl
  · exact (field_waits_iff .subnet unplacedSubnet).2 ⟨rfl, rfl, rfl⟩ rfl _ _ _ run

end ResourceOperator
