import ResourceOperator.Proofs.External.Settling
import ResourceOperator.Proofs.Reconcile.Outcome
import ResourceOperator.Reconcile.World

/-!
# A second `sync` is quiet

What `sync` leaves on a resource it stores, and what it stores starts the next one. That comes to
rest: where the outside answers what is read alike, a second run for a resource whose remote object
was found changes nothing that the first one has left. Only an update of a remote object that has
drifted is tried again, since what is read still differs from what is declared.

A log of operations is `Carried` where each answer is what the operation of the kind comes to, with
what it reads answered by a function. An operation that only reads is then determined by what it was
asked, so the first run can be taken apart (`found_of_run`) and its resource shown to have settled.

Results:
* `found_of_run`: a run that has found the remote object, in its parts.
* `quiet_of_settled`: a run for a resource that has settled and says that it is in sync.
* `second_sync_quiet`: so a second run is quiet (`Quiet`).
* `renamedSubnet_second_quiet`: this for a subnet that has another name in the cloud.
-/

namespace ResourceOperator

open Dialogue

/-! ## Operations that are carried out -/

namespace World

variable {answers : Outside.Answers}

/-- What is read outside is answered as these answers have it. -/
def Fixed (answers : Outside.Answers) : Exchange World → Prop
  | ⟨.outside q, answer⟩ => Outside.reads q = true → answer = answers q
  | _ => True

/-- An operation on the remote object in its surroundings is the operation. -/
theorem run_ofOutside {α : Type} {d : Dialogue Outside α} {log : List (Exchange World)} {a : α}
    (run : Run (ofOutside d) log a) (hf : ∀ x ∈ log, Fixed answers x) :
    ∃ inner, Run d inner a ∧ Outside.Fixed answers inner := by
  induction d generalizing log with
  | done b =>
    cases run
    exact ⟨[], .done _, fun _ hx => absurd hx List.not_mem_nil⟩
  | ask q next ih =>
    obtain ⟨answer, rest, hrest, rfl⟩ := run_ask_iff.mp run
    obtain ⟨hx, hall⟩ := List.forall_mem_cons.mp hf
    obtain ⟨inner, hinner, hfixed⟩ := ih answer hrest hall
    exact ⟨_, .ask q answer hinner, List.forall_mem_cons.mpr ⟨hx, hfixed⟩⟩

/-- An operation that only reads comes to what the answers have it come to. -/
theorem run_eq {α : Type} {d : Dialogue Outside α} (hd : Outside.Reading d)
    {log : List (Exchange World)} {a : α} (run : Run (ofOutside d) log a)
    (hf : ∀ x ∈ log, Fixed answers x) : d.run answers = a := by
  obtain ⟨inner, run, hf⟩ := run_ofOutside run hf
  exact (hd.run_eq run hf).symm

end World

namespace Reconcile

open ResourceOperator.Task

variable {k : Kind} {answers : Outside.Answers} {context : Context} {name now : String}
  {r left : Managed k} {log : History k} {out : Except ReconcileError Action × Managed k}

/-- The exchange is an operation of the kind, carried out, with fixed answers to what it reads. -/
def Carried (answers : Outside.Answers) (now : String) (x : Exchange (Lifecycle k)) : Prop :=
  ∃ log, Run (World.carryOut (External.ofKind k) now x.question) log x.answer ∧
    ∀ y ∈ log, World.Fixed answers y

theorem resolve_of_carried {o : Outcome k Resolved}
    (h : Carried answers now ⟨.resolveReferences r, o⟩) :
    ((External.ofKind k).resolveReferences r).run answers = o := by
  obtain ⟨log, run, hf⟩ := h
  exact World.run_eq ((External.reading_ofKind k).resolveReferences r) run hf

theorem observe_of_carried {o : Outcome k Observed} (h : Carried answers now ⟨.observe r, o⟩) :
    ((External.ofKind k).observe now r).run answers = o := by
  obtain ⟨log, run, hf⟩ := h
  exact World.run_eq ((External.reading_ofKind k).observe now r) run hf

/-- An update leaves the resource as it is. -/
theorem update_of_carried {o : Outcome k Unit} (h : Carried answers now ⟨.update r, o⟩) :
    o.resource = r := by
  obtain ⟨log, run, hf⟩ := h
  obtain ⟨inner, run, -⟩ := World.run_ofOutside run hf
  exact (run.of_asking ((External.reading_ofKind k).update r) fun _ _ => trivial).2

/-! ## What a log tells -/

/-- The remote object is found. -/
def finds : Exchange (Lifecycle k) → Bool
  | ⟨.observe _, ⟨.ok observed, _⟩⟩ => observed.present
  | _ => false

/-- The remote object is updated, or that is tried. -/
def updates : Exchange (Lifecycle k) → Bool
  | ⟨.update _, _⟩ => true
  | _ => false

/-- Connection details cannot be published. -/
def withholds : Exchange (Lifecycle k) → Bool
  | ⟨.cluster (.applySecret _ _), .error _⟩ => true
  | _ => false

/-- The call creates the remote object or stores the desired state. -/
def brings : LifecycleCall k → Bool
  | .create _ => true
  | .cluster (.patch _ _) => true
  | _ => false

@[simp] theorem finds_observe {observed : Observed} :
    finds ⟨.observe r, .ok observed left⟩ = observed.present := rfl

/-- What no successful write is, none of the writes that were due is. -/
theorem any_written {p : Exchange (Lifecycle k) → Bool}
    (hp : ∀ c, p ⟨.cluster c, .ok ()⟩ = false) (call : Option Cluster.Call) :
    (written call).any p = false := by
  cases call with
  | none => rfl
  | some c => simp [written, hp]

@[simp] theorem any_finds_written (call : Option Cluster.Call) :
    (written call).any (finds (k := k)) = false := any_written (fun _ => rfl) call

@[simp] theorem any_updates_written (call : Option Cluster.Call) :
    (written call).any (updates (k := k)) = false := any_written (fun _ => rfl) call

/-! ## The first run -/

section First

variable {action : Action}

/-- Where the remote object is absent it is not found. -/
theorem not_finds_syncAbsent (run : Run (syncAbsent context name r) log (.ok action, left)) :
    log.any finds = false := by
  obtain ⟨o, _, rfl, hcreated⟩ := run_create_bind.mp run
  obtain ⟨created, middle, rfl, hstore⟩ := hcreated.succeeded
  obtain ⟨_, hpublish, rfl⟩ := run_write_bind_ok.mp hstore
  obtain ⟨_, hend, rfl⟩ := run_write_bind_ok.mp hpublish
  obtain ⟨rfl, -⟩ := run_done_iff.mp hend
  simp [finds]

/-- Where the remote object exists it is updated if it has drifted, and left as it was seen
otherwise. -/
theorem updated_of_run {observed : Observed}
    (run : Run (syncPresent context name observed r) log (.ok action, left)) :
    log.any updates = !observed.upToDate ∧
      ∃ after, (after = r ∨ ⟨.update r, .ok () after⟩ ∈ log) ∧
        left = after.setCondition (.reconcileSuccess context.now) := by
  rw [syncPresent_eq, storeDesired, when_write] at run
  obtain ⟨_, hpublish, rfl⟩ := run_write_bind_ok.mp run
  obtain ⟨_, hupdate, rfl⟩ := run_write_bind_ok.mp hpublish
  cases hu : observed.upToDate with
  | true =>
    rw [hu] at hupdate
    obtain ⟨rfl, hout⟩ := run_done_iff.mp hupdate
    cases hout
    exact ⟨by simp, r, .inl rfl, rfl⟩
  | false =>
    rw [hu] at hupdate
    obtain ⟨o, _, rfl, hupdated⟩ := run_update_bind.mp hupdate
    obtain ⟨-, after, rfl, hend⟩ := hupdated.succeeded
    obtain ⟨rfl, hout⟩ := run_done_iff.mp hend
    cases hout
    exact ⟨by simp [updates], after, .inr (by simp), rfl⟩

/-- A run that has found the remote object, in its parts. -/
theorem found_of_run (run : Run (sync context name r) log (.ok action, left))
    (hfound : log.any finds = true) :
    ∃ resolved found observed seen after,
      ⟨.resolveReferences r, .ok resolved found⟩ ∈ log ∧ resolved.pending = [] ∧
      ⟨.observe found, .ok observed seen⟩ ∈ log ∧ observed.present = true ∧
      (after = seen ∨ ⟨.update seen, .ok () after⟩ ∈ log) ∧
      log.any updates = !observed.upToDate ∧
      left = after.setCondition (.reconcileSuccess context.now) := by
  rw [sync_eq] at run
  obtain ⟨o, _, rfl, hresolved⟩ := run_resolveReferences_bind.mp run
  obtain ⟨resolved, found, rfl, hstore⟩ := hresolved.succeeded
  rw [storeDesired, when_write] at hstore
  obtain ⟨_, hobserve, rfl⟩ := run_write_bind_ok.mp hstore
  cases hp : resolved.pending with
  | cons field fields =>
    -- it has waited for references
    rw [hp] at hobserve
    obtain ⟨rfl, -⟩ := run_done_iff.mp hobserve
    simp [finds] at hfound
  | nil =>
    rw [hp] at hobserve
    obtain ⟨o, _, rfl, hobserved⟩ := run_observe_bind.mp hobserve
    obtain ⟨observed, seen, rfl, hbranch⟩ := hobserved.succeeded
    cases ho : observed.present with
    | false =>
      rw [ho] at hbranch
      have habsent := not_finds_syncAbsent hbranch
      simp [finds_observe, ho, habsent] at hfound
      cases hfound
    | true =>
      rw [ho] at hbranch
      obtain ⟨hu, after, hafter, rfl⟩ := updated_of_run hbranch
      refine ⟨resolved, found, observed, seen, after, by simp, hp, by simp, ho, ?_, ?_, rfl⟩
      · exact hafter.imp_right fun h => by simp [h]
      · simp [updates, hu]

end First

/-! ## The second run -/

/-- A run that changes nothing but a remote object for which an update is due. -/
structure Quiet (due : Bool) (r : Managed k) (log : History k) (left : Managed k) : Prop where
  /-- The resource is left as it was. -/
  unchanged : left = r
  /-- Nothing is created, and no desired state stored. -/
  nothing_brought : ∀ x ∈ log, brings x.question = false
  /-- The remote object is updated where that is due, unless connection details could not be
  published before. -/
  updated : log.any updates = (due && !log.any withholds)

/-- A quiet run stays quiet after writes that succeed and operations that only read. -/
theorem Quiet.append {due : Bool} (h : Quiet due r log left) (front : History k)
    (hb : ∀ x ∈ front, brings x.question = false) (hu : front.any updates = false)
    (hw : front.any withholds = false) : Quiet due r (front ++ log) left where
  unchanged := h.unchanged
  nothing_brought := List.forall_mem_append.mpr ⟨hb, h.nothing_brought⟩
  updated := by
    rw [List.any_append, List.any_append, hu, hw]
    exact h.updated

/-- What publishes connection details neither creates nor stores. -/
theorem not_brings_detailsCall {details : Table String} {x : Exchange (Lifecycle k)}
    (h : x ∈ written (detailsCall details r)) : brings x.question = false := by
  cases hc : detailsCall details r with
  | none =>
    rw [hc] at h
    exact absurd h List.not_mem_nil
  | some c =>
    rw [hc] at h
    obtain ⟨secret, rfl⟩ := exists_secret_of_detailsCall hc
    rw [List.mem_singleton.mp h]
    rfl

section Second

variable {upToDate : Bool} {out : Except ReconcileError Action × Managed k}

/-- Where the resource says already that it is in sync, the end of a run leaves it as it is. -/
theorem quiet_end {action : Action} (hs : r.setCondition (.reconcileSuccess context.now) = r)
    (run : Run ((when (!upToDate) update >>= fun _ =>
      modify (Managed.setCondition (.reconcileSuccess context.now)) >>= fun _ =>
        (pure action : Task k Action)) r) log out)
    (hc : ∀ x ∈ log, Carried answers context.now x) :
    Quiet (!upToDate) r log out.2 := by
  cases upToDate with
  | true =>
    obtain ⟨rfl, rfl⟩ := run_done_iff.mp run
    exact ⟨hs, fun _ hx => absurd hx List.not_mem_nil, rfl⟩
  | false =>
    obtain ⟨o, rest, rfl, hupdated⟩ := run_update_bind.mp run
    obtain ⟨hupdate, -⟩ := List.forall_mem_cons.mp hc
    have hleft : o.resource = r := update_of_carried hupdate
    have hend : rest = [] ∧ out.2 = r := by
      obtain ⟨e | _, after⟩ := o
      · obtain ⟨rfl, rfl⟩ := hupdated
        exact ⟨rfl, hleft⟩
      · obtain rfl : after = r := hleft
        obtain ⟨rfl, rfl⟩ := run_done_iff.mp hupdated
        exact ⟨rfl, hs⟩
    obtain ⟨rfl, hout⟩ := hend
    exact ⟨hout, List.forall_mem_singleton.mpr rfl, rfl⟩

/-- Where nothing is filled in, a run for an existing remote object is quiet. -/
theorem quiet_syncPresent {details : Table String}
    (hs : r.setCondition (.reconcileSuccess context.now) = r)
    (run : Run (syncPresent context name ⟨true, upToDate, false, details⟩ r) log out)
    (hc : ∀ x ∈ log, Carried answers context.now x) :
    Quiet (!upToDate) r log out.2 := by
  rw [syncPresent_eq, publishDetails] at run
  rcases run_write_bind.mp run with ⟨rest, hend, rfl⟩ | ⟨c, e, hcall, rfl, rfl⟩
  · have hrest := quiet_end hs hend fun x hx => hc x (List.mem_append_right _ hx)
    exact hrest.append _ (fun x hx => not_brings_detailsCall hx) (any_updates_written _)
      (any_written (fun c => by cases c <;> rfl) _)
  · obtain ⟨secret, rfl⟩ := exists_secret_of_detailsCall hcall
    exact ⟨rfl, List.forall_mem_singleton.mpr rfl, (Bool.and_false _).symm⟩

/-- A run for a resource that has settled, and says that it is in sync, is quiet. -/
theorem quiet_of_settled (h : (External.ofKind k).Settled answers upToDate r)
    (hs : r.setCondition (.reconcileSuccess context.now) = r)
    (run : Run (sync context name r) log out) (hc : ∀ x ∈ log, Carried answers context.now x) :
    Quiet (!upToDate) r log out.2 := by
  rw [sync_eq] at run
  obtain ⟨o, _, rfl, hresolved⟩ := run_resolveReferences_bind.mp run
  obtain ⟨hresolve, hafter⟩ := List.forall_mem_cons.mp hc
  obtain rfl := (resolve_of_carried hresolve).symm.trans h.resolves
  obtain ⟨o, rest, rfl, hobserved⟩ := run_observe_bind.mp hresolved
  obtain ⟨hobserve, hrest⟩ := List.forall_mem_cons.mp hafter
  obtain ⟨details, hdetails⟩ := h.observes context.now
  obtain rfl := (observe_of_carried hobserve).symm.trans hdetails
  have hpresent : Run (syncPresent context name ⟨true, upToDate, false, details⟩ r) rest out :=
    hobserved
  refine (quiet_syncPresent hs hpresent hrest).append [_, _] ?_ rfl rfl
  exact List.forall_mem_cons.mpr ⟨rfl, List.forall_mem_singleton.mpr rfl⟩

end Second

/-! ## Both runs -/

/-- **A second `sync` is quiet.** Let what is read outside be answered alike in both runs, with the
objects that are listed found by their names. Where the first run succeeds and has found the remote
object, the second one, on the resource that the first one left, leaves that as it is in every
field, the times of its conditions included. It creates nothing and stores no desired state, and it
updates the remote object exactly where the first run did, unless its connection details could not
be published before. -/
theorem second_sync_quiet (hn : answers.Named) {context' : Context} {action : Action}
    {first second : History k} {middle last : Managed k} {result : Except ReconcileError Action}
    (run : Run (sync context name r) first (.ok action, middle))
    (hc : ∀ x ∈ first, Carried answers context.now x) (hfound : first.any finds = true)
    (again : Run (sync context' name middle) second (result, last))
    (hc' : ∀ x ∈ second, Carried answers context'.now x) :
    Quiet (first.any updates) middle second last := by
  obtain ⟨resolved, found, observed, seen, after, hresolve, hpending, hobserve, hpresent, hafter,
    hu, rfl⟩ := found_of_run run hfound
  obtain rfl : after = seen := by
    rcases hafter with h | h
    · exact h
    · exact update_of_carried (hc _ h)
  have settled : (External.ofKind k).Settled answers observed.upToDate
      (after.setCondition (.reconcileSuccess context.now)) :=
    External.settles_ofKind k hn (resolve_of_carried (hc _ hresolve)) hpending
      (observe_of_carried (hc _ hobserve)) hpresent rfl
  have shown : (after.setCondition (.reconcileSuccess context.now)).setCondition
      (.reconcileSuccess context'.now) = after.setCondition (.reconcileSuccess context.now) :=
    Managed.setCondition_of_shows ((Managed.shows_setCondition after _).of_equivalent rfl)
  rw [hu]
  exact quiet_of_settled settled shown again hc'

/-- A subnet that selects its network, and has another name in the cloud. -/
def renamedSubnet : Managed .subnet where
  metadata :=
    { Metadata.empty with
      annotations := some [(Metadata.externalNameKey, "s-1")]
      name := some "sn" }
  spec :=
    { forProvider :=
        ⟨⟨some "apps", none, none, none, none, none, none, none, some ⟨[("env", "prod")]⟩⟩,
          .byTotalCount 256 "us-south-1"⟩
      deletionPolicy := .delete
      connectionSecret := none
      connectionTemplates := () }
  status := none

/-- The network that the subnet selects. -/
def prodNetwork : Managed .vpc where
  metadata :=
    { Metadata.empty with
      annotations := some [(Metadata.externalNameKey, "v-1")]
      labels := some [("env", "prod")]
      name := some "net" }
  spec := ⟨⟨none, none, none, none⟩, .delete, none, ()⟩
  status := none

/-- The subnet in the cloud. -/
def cloudSubnet : Subnet.Remote :=
  ⟨"s-1", "", "", "sn", "ipv4", "10.0.0.0/24", 251, 256, .available, none, none, none, none, none,
    ⟨"v-1", "", "", "net"⟩, ⟨"us-south-1", ""⟩⟩

/-- The subnet and its network are found, and nothing else. -/
def subnetAnswers : Outside.Answers
  | .cloud (.network (.getSubnet _)) => .ok cloudSubnet
  | .cloud _ => .error (.notFound "")
  | .lookup .vpc .list => .ok [prodNetwork]
  | .lookup .vpc (.get _) => .ok prodNetwork
  | .lookup _ _ => .error (.notFound "")

theorem named_subnetAnswers : subnetAnswers.Named := by
  intro k objects h o ho
  cases k with
  | vpc =>
    cases h
    cases List.mem_singleton.mp ho
    rfl
  | _ => cases h

/-- The subnet with its network. -/
def placedSubnet : Managed .subnet :=
  renamedSubnet.setParameters (Subnet.applyResolution renamedSubnet.spec.forProvider
    ⟨"v-1", some ⟨"net"⟩⟩).value

/-- The subnet as it has been seen. -/
def seenSubnet : Managed .subnet :=
  Subnet.recordRemote "t0" placedSubnet cloudSubnet
    (Subnet.Parameters.lateInitialize placedSubnet.spec.forProvider cloudSubnet).value

/-- The subnet as the first run leaves it. -/
def syncedSubnet : Managed .subnet :=
  seenSubnet.setCondition (.reconcileSuccess "t0")

/-- The first run finds the network, fills in the IP version, and updates the name. -/
def firstSync : History .subnet :=
  [⟨.resolveReferences renamedSubnet, .ok ⟨true, []⟩ placedSubnet⟩,
    ⟨.cluster (.patch "sn" placedSubnet.desiredStatePatch), .ok ()⟩,
    ⟨.observe placedSubnet, .ok ⟨true, false, true, []⟩ seenSubnet⟩,
    ⟨.cluster (.patch "sn" seenSubnet.desiredStatePatch), .ok ()⟩,
    ⟨.update seenSubnet, .ok () seenSubnet⟩]

/-- The second run updates the name, which the cloud still has as it was, and that is all. -/
def secondSync : History .subnet :=
  [⟨.resolveReferences syncedSubnet, .ok ⟨false, []⟩ syncedSubnet⟩,
    ⟨.observe syncedSubnet, .ok ⟨true, false, false, []⟩ syncedSubnet⟩,
    ⟨.update syncedSubnet, .ok () syncedSubnet⟩]

theorem run_firstSync :
    Run (sync ⟨300, 30, "t0"⟩ "sn" renamedSubnet) firstSync (.ok (.requeue 300), syncedSubnet) :=
  .ask _ _ (.ask _ _ (.ask _ _ (.ask _ _ (.ask _ _ (.done _)))))

theorem run_secondSync :
    Run (sync ⟨300, 30, "t1"⟩ "sn" syncedSubnet) secondSync (.ok (.requeue 300), syncedSubnet) :=
  .ask _ _ (.ask _ _ (.ask _ _ (.done _)))

/-- A write is carried out by itself. -/
theorem carried_write {c : Cluster.Call} {answer : Except ReconcileError Unit} :
    Carried (k := k) answers now ⟨.cluster c, answer⟩ :=
  ⟨[⟨.cluster c, answer⟩], .ask _ _ (.done _), List.forall_mem_singleton.mpr trivial⟩

/-- The subnet is fetched. -/
def fetched : Exchange World :=
  ⟨.outside (.cloud (.network (.getSubnet "s-1"))), .ok cloudSubnet⟩

theorem fixed_fetched : World.Fixed subnetAnswers fetched := fun _ => rfl

/-- The name of the subnet is updated. -/
def renamed (p : Subnet.Parameters) : Exchange World :=
  ⟨.outside (.cloud (.network (.updateSubnet "s-1" (p.patch cloudSubnet)))), .ok cloudSubnet⟩

theorem fixed_renamed (p : Subnet.Parameters) : World.Fixed subnetAnswers (renamed p) :=
  fun h => absurd h Bool.false_ne_true

theorem carried_firstSync : ∀ x ∈ firstSync, Carried subnetAnswers "t0" x := by
  have resolved : Carried subnetAnswers "t0"
      ⟨.resolveReferences renamedSubnet, .ok ⟨true, []⟩ placedSubnet⟩ :=
    ⟨[⟨.outside (.lookup .vpc .list), .ok [prodNetwork]⟩], .ask _ _ (.done _),
      List.forall_mem_singleton.mpr fun _ => rfl⟩
  have observed : Carried subnetAnswers "t0"
      ⟨.observe placedSubnet, .ok ⟨true, false, true, []⟩ seenSubnet⟩ :=
    ⟨[fetched], .ask _ _ (.done _), List.forall_mem_singleton.mpr fixed_fetched⟩
  have updated : Carried subnetAnswers "t0" ⟨.update seenSubnet, .ok () seenSubnet⟩ :=
    ⟨[fetched, renamed seenSubnet.spec.forProvider], .ask _ _ (.ask _ _ (.done _)),
      List.forall_mem_cons.mpr ⟨fixed_fetched, List.forall_mem_singleton.mpr (fixed_renamed _)⟩⟩
  exact List.forall_mem_cons.mpr ⟨resolved, List.forall_mem_cons.mpr ⟨carried_write,
    List.forall_mem_cons.mpr ⟨observed, List.forall_mem_cons.mpr ⟨carried_write,
      List.forall_mem_singleton.mpr updated⟩⟩⟩⟩

theorem carried_secondSync : ∀ x ∈ secondSync, Carried subnetAnswers "t1" x := by
  have resolved : Carried subnetAnswers "t1"
      ⟨.resolveReferences syncedSubnet, .ok ⟨false, []⟩ syncedSubnet⟩ :=
    ⟨[⟨.outside (.lookup .vpc (.get "net")), .ok prodNetwork⟩], .ask _ _ (.done _),
      List.forall_mem_singleton.mpr fun _ => rfl⟩
  have observed : Carried subnetAnswers "t1"
      ⟨.observe syncedSubnet, .ok ⟨true, false, false, []⟩ syncedSubnet⟩ :=
    ⟨[fetched], .ask _ _ (.done _), List.forall_mem_singleton.mpr fixed_fetched⟩
  have updated : Carried subnetAnswers "t1" ⟨.update syncedSubnet, .ok () syncedSubnet⟩ :=
    ⟨[fetched, renamed syncedSubnet.spec.forProvider], .ask _ _ (.ask _ _ (.done _)),
      List.forall_mem_cons.mpr ⟨fixed_fetched, List.forall_mem_singleton.mpr (fixed_renamed _)⟩⟩
  exact List.forall_mem_cons.mpr ⟨resolved, List.forall_mem_cons.mpr ⟨observed,
    List.forall_mem_singleton.mpr updated⟩⟩

/-- The second run for the subnet is quiet: it only tries to rename the subnet once more. -/
theorem renamedSubnet_second_quiet : Quiet true syncedSubnet secondSync syncedSubnet :=
  second_sync_quiet named_subnetAnswers run_firstSync carried_firstSync rfl run_secondSync
    carried_secondSync

end Reconcile

end ResourceOperator
