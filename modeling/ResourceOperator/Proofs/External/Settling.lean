import ResourceOperator.Proofs.Condition
import ResourceOperator.Proofs.External.Reading
import ResourceOperator.Proofs.Filling

/-!
# Resources that have settled

An operation that only reads is a function of the answers to what it reads. With these fixed, a
resource has settled (`External.Settled`) when resolving its references and observing its remote
object, at any time, leave it as it is. What is found is filled in where the declaration says
nothing, and a condition is set again only where it differs in more than the time: that is why an
observation that has found the remote object leaves nothing to change for the next one.

Filling in could still disturb a reference that was resolved, since both write to the declaration.
A field that is taken from other declared objects (`Taking`) has a value where nothing is pending,
and a field with a value is not filled in.

Results:
* `Managed.seen_again`: seeing the same remote object again changes nothing.
* `Taking.run_resolve`, `Taking.resolve_again`: when a field is resolved, and that it stays so.
* `Vpc.finds` and the same for the other kinds: what was found once is found again.
* `External.settles_ofKind`: a resource of any kind settles where its references are resolved and
  its remote object is found.
-/

namespace ResourceOperator

open Dialogue Outside

variable {k : Kind} {answers : Answers}

/-- Every declared object that is listed is found by its name. -/
def Outside.Answers.Named (answers : Answers) : Prop :=
  ∀ k : Kind, Resolution.Named fun q : (Lookup k).Question => answers (.lookup k q)

/-! ## Resources that have been seen -/

/-- The conditions that stand for a readiness differ in nothing but the time. -/
structure Condition.Readiness (ready : String → Condition) : Prop where
  aspect : ∀ now, (ready now).aspect = .ready
  equivalent : ∀ now now', (ready now).equivalent (ready now') = true

namespace Managed

variable {r : Managed k} {q : Parameters k} {o : Observation k} {ready : String → Condition}
  {now : String}

/-- The resource after its remote object has been seen. -/
def seen (q : Parameters k) (o : Observation k) (c : Condition) (r : Managed k) : Managed k :=
  ((r.setParameters q).setObservation o).setCondition c

/-- What a resource shows it shows up to the time. -/
theorem Shows.of_equivalent {c c' : Condition} (h : r.Shows c) (he : c.equivalent c' = true) :
    r.Shows c' := by
  obtain ⟨status, d, hs, hd, hc⟩ := h
  obtain ⟨haspect, hverdict, hreason, hmessage⟩ := Condition.equivalent_iff.mp he
  obtain ⟨haspect', hverdict', hreason', hmessage'⟩ := Condition.equivalent_iff.mp hc
  refine ⟨status, d, hs, haspect ▸ hd, Condition.equivalent_iff.mpr ⟨?_, ?_, ?_, ?_⟩⟩
  · exact haspect'.trans haspect
  · exact hverdict'.trans hverdict
  · exact hreason'.trans hreason
  · exact hmessage'.trans hmessage

/-- A remote object that is seen again as it was changes nothing, whatever the time, also where it
has been noted that the resource is in sync. -/
theorem seen_again (hr : Condition.Readiness ready) {c : Condition} (hc : c.aspect = .synced)
    (now' : String) :
    ((r.seen q o (ready now)).setCondition c).seen q o (ready now') =
      (r.seen q o (ready now)).setCondition c := by
  have hready : ((r.seen q o (ready now)).setCondition c).Shows (ready now) := by
    refine (shows_setCondition _ _).setCondition ?_
    rw [hc, hr.aspect]
    decide
  have hsame : ((((r.seen q o (ready now)).setCondition c).setParameters q).setObservation o) =
      (r.seen q o (ready now)).setCondition c := rfl
  rw [seen, hsame]
  exact setCondition_of_shows (hready.of_equivalent (hr.equivalent now now'))

end Managed

/-! ## What settles -/

namespace External

variable {e : External k} {now : String} {r left : Managed k} {observed : Observed}

/-- The references of a resource are resolved and its remote object has been seen: resolving and
observing once more, at any time, leaves it as it is. -/
structure Settled (e : External k) (answers : Answers) (upToDate : Bool) (r : Managed k) :
    Prop where
  resolves : (e.resolveReferences r).run answers = .ok ⟨false, []⟩ r
  observes : ∀ now, ∃ details,
    (e.observe now r).run answers = .ok ⟨true, upToDate, false, details⟩ r

/-- An observation has found the remote object, and finds it again, with nothing to fill in. -/
def Finds (e : External k) (answers : Answers) (now : String) (r : Managed k) (observed : Observed)
    (left : Managed k) : Prop :=
  ∃ q o ready, left = r.seen q o (ready now) ∧ Condition.Readiness ready ∧
    ∀ now' r', r'.metadata = r.metadata → r'.spec = left.spec → ∃ details,
      (e.observe now' r').run answers =
        .ok ⟨true, observed.upToDate, false, details⟩ (r'.seen q o (ready now'))

/-- What an observation leaves has settled where its references are resolved. -/
theorem Finds.settled (h : e.Finds answers now r observed left)
    (hresolved : ∀ r', r'.spec = left.spec →
      (e.resolveReferences r').run answers = .ok ⟨false, []⟩ r')
    {c : Condition} (hc : c.aspect = .synced) :
    e.Settled answers observed.upToDate (left.setCondition c) := by
  obtain ⟨q, o, ready, rfl, hready, hagain⟩ := h
  refine ⟨hresolved _ rfl, fun now' => ?_⟩
  obtain ⟨details, hrun⟩ := hagain now' ((r.seen q o (ready now)).setCondition c) rfl rfl
  rw [Managed.seen_again hready hc] at hrun
  exact ⟨details, hrun⟩

/-- On a kind, a resource whose references are resolved and whose remote object is found settles. -/
def Settles (e : External k) (answers : Answers) : Prop :=
  ∀ {now r resolved found observed left},
    (e.resolveReferences r).run answers = .ok resolved found → resolved.pending = [] →
    (e.observe now found).run answers = .ok observed left → observed.present = true →
    ∀ {c : Condition}, c.aspect = .synced →
      e.Settled answers observed.upToDate (left.setCondition c)

end External

/-! ## Observations that find the object -/

section Shapes

variable {r left : Managed k} {observed : Observed}

/-- Absence is no sight of an object. -/
theorem absent_ne (hp : observed.present = true) :
    Outcome.ok Observed.absent r ≠ Outcome.ok observed left := by
  intro h
  cases h
  cases hp

/-- Without an id nothing is found. -/
theorem run_known {name : Option String} {d : String → Dialogue Outside (Outcome k Observed)}
    (hp : observed.present = true) :
    (match name with
      | none => pure (.ok .absent r)
      | some id => d id : Dialogue Outside (Outcome k Observed)).run answers = .ok observed left ↔
      ∃ id, name = some id ∧ (d id).run answers = .ok observed left := by
  cases name with
  | none => exact iff_of_false (absent_ne hp) (by simp)
  | some id => simp only [Option.some.injEq, exists_eq_left']

/-- A failure is no sight of an object, whether it is taken for absence or not. -/
theorem run_missing {condition : Prop} [Decidable condition] {failure : EngineError}
    (hp : observed.present = true) :
    ¬ (if condition then pure (.ok .absent r) else pure (.fail failure r) :
      Dialogue Outside (Outcome k Observed)).run answers = .ok observed left := by
  by_cases hc : condition
  · rw [if_pos hc]
    exact absent_ne hp
  · rw [if_neg hc]
    intro h
    cases h

/-- The object is found by a call that succeeds, where no other call finds it. -/
theorem run_sighted {call : Cloud.Call}
    {f : Except Cloud.Failure call.Result → Dialogue Outside (Outcome k Observed)}
    (he : ∀ e, ¬ (f (.error e)).run answers = .ok observed left) :
    (cloud call >>= f).run answers = .ok observed left ↔
      ∃ v, answers (.cloud call) = .ok v ∧ (f (.ok v)).run answers = .ok observed left := by
  rw [run_cloud]
  cases answers (.cloud call) with
  | error e => exact iff_of_false (he e) nofun
  | ok v =>
    constructor
    · intro h
      exact ⟨v, rfl, h⟩
    · rintro ⟨_, hv, h⟩
      cases hv
      exact h

/-- The object is found where it is fetched, and nowhere else. -/
theorem run_fetched {ρ : Type} {fetch : Dialogue Outside (Except EngineError (Option ρ))}
    {f : Except EngineError (Option ρ) → Dialogue Outside (Outcome k Observed)}
    (he : ∀ e, f (.error e) = pure (.fail e r)) (hnone : f (.ok none) = pure (.ok .absent r))
    (hp : observed.present = true) :
    (fetch >>= f).run answers = .ok observed left ↔
      ∃ remote, fetch.run answers = .ok (some remote) ∧
        (f (.ok (some remote))).run answers = .ok observed left := by
  rw [bind_eq, run_bind]
  rcases fetch.run answers with e | _ | remote
  · rw [he]
    exact iff_of_false nofun nofun
  · rw [hnone]
    exact iff_of_false (absent_ne hp) nofun
  · simp only [Except.ok.injEq, Option.some.injEq, exists_eq_left']

end Shapes

/-! ## References that have been resolved -/

/-- How a kind takes a field from the objects of another kind. -/
structure Taking (k j : Kind) where
  request : Parameters k → Resolution.Request j
  apply : Parameters k → Resolution → Filled (Parameters k)
  /-- What was taken over is what the field has now. -/
  taken : ∀ p found, request (apply p found).value = (request p).resolved found
  /-- What the field has now is nothing to take over. -/
  kept : ∀ p, apply p ⟨(request p).current, (request p).reference⟩ = .keep p

namespace Taking

variable {j : Kind} (t : Taking k j) {r left : Managed k} {resolved : Resolved}

/-- Resolves the field. -/
def resolve (r : Managed k) : Dialogue Outside (Outcome k Resolved) :=
  Resolution.takeOver (t.request r.spec.forProvider) (t.request r.spec.forProvider).field
    (t.apply r.spec.forProvider) r

/-- A field is resolved where it is found and has a value. -/
theorem run_resolve (hp : resolved.pending = []) :
    (t.resolve r).run answers = .ok resolved left ↔ ∃ found,
      (Resolution.resolve (t.request r.spec.forProvider)).run
        (fun q => answers (.lookup j q)) = .ok found ∧ found.isPending = false ∧
      resolved = ⟨(t.apply r.spec.forProvider found).changed, []⟩ ∧
      left = r.setParameters (t.apply r.spec.forProvider found).value := by
  rw [resolve, Resolution.takeOver, bind_eq, run_bind, run_ofLookup]
  cases (Resolution.resolve (t.request r.spec.forProvider)).run
    (fun q => answers (.lookup j q)) with
  | error e => exact iff_of_false nofun nofun
  | ok found =>
    simp only [Except.ok.injEq, exists_eq_left']
    cases hf : found.isPending with
    | true =>
      refine iff_of_false ?_ nofun
      intro h
      cases h
      cases hp
    | false =>
      constructor
      · intro h
        cases h
        exact ⟨rfl, rfl, rfl⟩
      · rintro ⟨-, rfl, rfl⟩
        rfl

/-- A field that is resolved has a value. -/
theorem current_of_resolved (h : (t.resolve r).run answers = .ok resolved left)
    (hp : resolved.pending = []) : (t.request left.spec.forProvider).current.isEmpty = false := by
  obtain ⟨found, -, hset, -, rfl⟩ := (t.run_resolve hp).mp h
  have htaken := congrArg Resolution.Request.current (t.taken r.spec.forProvider found)
  exact (congrArg String.isEmpty htaken).trans hset

/-- A field that is resolved is resolved again as it is, as long as it stays. -/
theorem resolve_again (hn : Resolution.Named fun q : (Lookup j).Question => answers (.lookup j q))
    (h : (t.resolve r).run answers = .ok resolved left) (hp : resolved.pending = []) {r' : Managed k}
    (hkeep : t.request r'.spec.forProvider = t.request left.spec.forProvider) :
    (t.resolve r').run answers = .ok ⟨false, []⟩ r' := by
  obtain ⟨found, hf, hset, -, rfl⟩ := (t.run_resolve hp).mp h
  have hrequest : t.request r'.spec.forProvider = (t.request r.spec.forProvider).resolved found :=
    hkeep.trans (t.taken _ found)
  have hkept : t.apply r'.spec.forProvider found = .keep r'.spec.forProvider := by
    have hsame := t.kept r'.spec.forProvider
    rw [hrequest] at hsame
    exact hsame
  refine (t.run_resolve rfl).mpr ⟨found, ?_, hset, ?_, ?_⟩
  · rw [hrequest]
    exact Resolution.resolve_again hn hf hset
  · rw [hkept]
    rfl
  · rw [hkept]
    rfl

/-- A kind that takes a field settles where observing leaves that field, once it has a value. -/
theorem settles {e : External k} (hn : answers.Named)
    (hresolve : ∀ r, e.resolveReferences r = t.resolve r)
    (hobserve : ∀ {now r observed left}, observed.present = true →
      (e.observe now r).run answers = .ok observed left →
      (t.request r.spec.forProvider).current.isEmpty = false →
        e.Finds answers now r observed left ∧
          t.request left.spec.forProvider = t.request r.spec.forProvider) :
    e.Settles answers := by
  intro now r resolved found observed left hr hpending ho hp c hc
  rw [hresolve] at hr
  obtain ⟨hfinds, hkeep⟩ := hobserve hp ho (t.current_of_resolved hr hpending)
  refine hfinds.settled (fun r' hspec => ?_) hc
  rw [hresolve]
  exact t.resolve_again (hn j) hr hpending (hspec ▸ hkeep)

/-- A text that was taken over is what the field has now. -/
theorem text_taken (current : Option String) (value : String) :
    (if (value != current.getD "") = true then some value else current).getD "" = value := by
  by_cases h : value = current.getD ""
  · rw [if_neg (by simp [h])]
    exact h.symm
  · rw [if_pos (by simp [h])]
    rfl

end Taking

/-! ## The conditions of remote objects -/

theorem Cloud.NetworkState.ready (s : Cloud.NetworkState) : Condition.Readiness s.readiness :=
  ⟨fun _ => by cases s <;> rfl, fun _ _ => by cases s <;> rfl⟩

theorem ResourceInstance.State.ready (s : ResourceInstance.State) :
    Condition.Readiness s.readiness :=
  ⟨fun _ => by cases s <;> rfl, fun _ _ => by cases s <;> rfl⟩

theorem ResourceKey.State.ready (s : ResourceKey.State) : Condition.Readiness s.readiness :=
  ⟨fun _ => by cases s <;> rfl, fun _ _ => by cases s <;> rfl⟩

theorem Condition.ready_available : Condition.Readiness Condition.available :=
  ⟨fun _ => rfl, fun _ _ => rfl⟩

/-! ## Networks -/

namespace Vpc

variable {now : String} {r left : Managed .vpc} {observed : Observed}

theorem finds (hp : observed.present = true) (h : (observe now r).run answers = .ok observed left) :
    external.Finds answers now r observed left := by
  obtain ⟨id, hid, h⟩ := (run_known hp).mp h
  obtain ⟨v, hv, h⟩ := (run_sighted fun e => run_missing hp).mp h
  cases h
  refine ⟨_, v.observation, v.status.readiness, rfl, v.status.ready, fun now' r' hm hs => ⟨[], ?_⟩⟩
  have hid' : r'.externalName = some id := by rwa [Managed.externalName, hm]
  have hfilled : r'.spec.forProvider = (Parameters.lateInitialize r.spec.forProvider v).value :=
    congrArg Spec.forProvider hs
  refine (run_known rfl).mpr ⟨id, hid', (run_sighted fun e => run_missing rfl).mpr ⟨v, hv, ?_⟩⟩
  dsimp only
  rw [hfilled, Parameters.lateInitialize_again]
  rfl

theorem settles : external.Settles answers := fun _ _ hobserve hp _ hc =>
  (finds hp hobserve).settled (fun _ _ => rfl) hc

end Vpc

/-! ## Subnets -/

namespace Subnet

variable {now : String} {r left : Managed .subnet} {observed : Observed}

theorem finds (hp : observed.present = true) (h : (observe now r).run answers = .ok observed left) :
    external.Finds answers now r observed left ∧
      ∃ s, left.spec.forProvider = (Parameters.lateInitialize r.spec.forProvider s).value := by
  obtain ⟨id, hid, h⟩ := (run_known hp).mp h
  obtain ⟨s, hs, h⟩ := (run_sighted fun e => run_missing hp).mp h
  cases h
  refine ⟨?_, s, rfl⟩
  refine ⟨_, s.observation, s.status.readiness, rfl, s.status.ready,
    fun now' r' hm hspec => ⟨[], ?_⟩⟩
  have hid' : r'.externalName = some id := by rwa [Managed.externalName, hm]
  have hfilled : r'.spec.forProvider = (Parameters.lateInitialize r.spec.forProvider s).value :=
    congrArg Spec.forProvider hspec
  refine (run_known rfl).mpr ⟨id, hid', (run_sighted fun e => run_missing rfl).mpr ⟨s, hs, ?_⟩⟩
  dsimp only
  rw [hfilled, Parameters.lateInitialize_again]
  rfl

theorem canonicalId_of_isEmpty {i : Identity} (h : i.isEmpty = true) : i.canonicalId = "" := by
  obtain ⟨form, value⟩ := i
  obtain rfl : value = "" := by simpa [Identity.isEmpty] using h
  cases form <;> decide

/-- A network that is known is not filled in. -/
theorem vpc_lateInitialize {p : Parameters} (h : (currentVpc p).isEmpty = false) (s : Remote) :
    (p.lateInitialize s).value.common.vpc = p.common.vpc := by
  show (Filled.ofIdentity p.common.vpc _).value = _
  cases hv : p.common.vpc with
  | none =>
    rw [currentVpc, hv] at h
    cases h
  | some i =>
    have hi : i.isEmpty = false := by
      refine Bool.eq_false_iff.mpr fun he => ?_
      rw [currentVpc, hv, Option.map_some, canonicalId_of_isEmpty he] at h
      cases h
    rw [Filled.ofIdentity_of_set hi]
    rfl

/-- The network that was taken over is the one that the subnet has now. -/
theorem currentVpc_applyResolution (p : Parameters) (found : Resolution) :
    currentVpc (applyResolution p found).value = found.value := by
  show ((if (found.value != currentVpc p) = true then some (.byId found.value)
    else p.common.vpc).map Identity.canonicalId).getD "" = found.value
  by_cases h : found.value = currentVpc p
  · rw [if_neg (by simp [h])]
    exact h.symm
  · rw [if_pos (by simp [h])]
    rfl

/-- A subnet takes its network from a declared one. -/
def taking : Taking .subnet .vpc where
  request := resolutionRequest
  apply := applyResolution
  taken p found :=
    congrArg (fun current => { (resolutionRequest p).resolved found with current := current })
      (currentVpc_applyResolution p found)
  kept p := by simp [applyResolution, resolutionRequest, Filled.keep]

theorem settles (hn : answers.Named) : external.Settles answers := by
  refine taking.settles hn (fun _ => rfl) fun {now r observed left} hp h hset => ?_
  obtain ⟨hfinds, s, hfilled⟩ := finds hp h
  have hvpc : currentVpc left.spec.forProvider = currentVpc r.spec.forProvider := by
    rw [hfilled, currentVpc, vpc_lateInitialize hset, currentVpc]
  refine ⟨hfinds, ?_⟩
  show resolutionRequest left.spec.forProvider = resolutionRequest r.spec.forProvider
  rw [resolutionRequest, hvpc, hfilled]
  rfl

end Subnet

/-! ## Resource keys -/

namespace ResourceKey

variable {now : String} {r left : Managed .resourceKey} {observed : Observed}

theorem finds (hp : observed.present = true) (h : (observe now r).run answers = .ok observed left) :
    external.Finds answers now r observed left ∧
      ∃ remote, left.spec.forProvider =
        (Parameters.lateInitialize r.spec.forProvider remote).value := by
  obtain ⟨id, hid, h⟩ := (run_known hp).mp h
  obtain ⟨remote, hr, h⟩ := (run_fetched (fun e => rfl) rfl hp).mp h
  cases h
  refine ⟨?_, remote, rfl⟩
  refine ⟨_, remote.observation, remote.state.readiness, rfl, remote.state.ready,
    fun now' r' hm hspec => ⟨connectionDetails r' remote, ?_⟩⟩
  have hid' : r'.externalName = some id := by rwa [Managed.externalName, hm]
  have hfilled : r'.spec.forProvider = (Parameters.lateInitialize r.spec.forProvider remote).value :=
    congrArg Spec.forProvider hspec
  refine (run_known rfl).mpr ⟨id, hid', (run_fetched (fun e => rfl) rfl rfl).mpr ⟨remote, hr, ?_⟩⟩
  dsimp only
  rw [hfilled, Parameters.lateInitialize_again]
  rfl

/-- A source that is known is not filled in. -/
theorem source_lateInitialize {p : Parameters} (h : (p.source.getD "").isEmpty = false)
    (remote : Remote) : (p.lateInitialize remote).value.source = p.source := by
  show (Filled.ofText p.source _).value = _
  rw [Filled.ofText, if_neg (by simp [h])]
  rfl

/-- A key takes its source from a declared instance. -/
def taking : Taking .resourceKey .resourceInstance where
  request := resolutionRequest
  apply := applyResolution
  taken p found :=
    congrArg (fun current => { (resolutionRequest p).resolved found with current := current })
      (Taking.text_taken p.source found.value)
  kept p := by simp [applyResolution, resolutionRequest, Filled.keep]

theorem settles (hn : answers.Named) : external.Settles answers := by
  refine taking.settles hn (fun _ => rfl) fun {now r observed left} hp h hset => ?_
  obtain ⟨hfinds, remote, hfilled⟩ := finds hp h
  refine ⟨hfinds, ?_⟩
  show resolutionRequest left.spec.forProvider = resolutionRequest r.spec.forProvider
  rw [resolutionRequest, hfilled, source_lateInitialize hset]
  rfl

end ResourceKey

/-! ## Topics -/

namespace Topic

variable {now : String} {r left : Managed .topic} {observed : Observed}

/-- Without an admin URL nothing is found. -/
theorem run_addressed {see : String → Dialogue Outside (Outcome .topic Observed)}
    (hp : observed.present = true) (address : Except EngineError String) :
    (match address with
      | .error e => pure (if r.metadata.isDeleted then .ok .absent r else .fail e r)
      | .ok url => see url : Dialogue Outside (Outcome .topic Observed)).run answers =
        .ok observed left ↔
      ∃ url, address = .ok url ∧ (see url).run answers = .ok observed left := by
  cases address with
  | error e =>
    refine iff_of_false ?_ nofun
    cases r.metadata.isDeleted with
    | true => exact absent_ne hp
    | false => nofun
  | ok url => simp only [Except.ok.injEq, exists_eq_left']

theorem finds (hp : observed.present = true) (h : (observe now r).run answers = .ok observed left) :
    external.Finds answers now r observed left ∧
      ∃ t, left.spec.forProvider = (Parameters.lateInitialize r.spec.forProvider t).value := by
  obtain ⟨url, hurl, h⟩ := (run_addressed hp _).mp h
  obtain ⟨t, ht, h⟩ := (run_sighted fun e => run_missing hp).mp h
  cases h
  refine ⟨?_, t, rfl⟩
  refine ⟨_, t.observation, _, rfl, Condition.ready_available, fun now' r' hm hspec => ⟨[], ?_⟩⟩
  have hname : topicName r' = topicName r := by
    rw [topicName, topicName, Managed.externalName, Managed.displayName, hm]
    rfl
  have hfilled : r'.spec.forProvider = (Parameters.lateInitialize r.spec.forProvider t).value :=
    congrArg Spec.forProvider hspec
  -- the admin URL is never filled in
  have hurl' : adminUrl r'.spec.forProvider = .ok url := by
    rw [hfilled]
    exact hurl
  refine (run_addressed rfl _).mpr ⟨url, hurl', ?_⟩
  rw [hname]
  refine (run_sighted fun e => run_missing rfl).mpr ⟨t, ht, ?_⟩
  dsimp only
  rw [hfilled, Parameters.lateInitialize_again]
  rfl

/-- A topic takes its admin URL from a declared key. -/
def taking : Taking .topic .resourceKey where
  request := resolutionRequest
  apply := applyResolution
  taken p found :=
    congrArg (fun current => { (resolutionRequest p).resolved found with current := current })
      (Taking.text_taken p.kafkaAdminUrl found.value)
  kept p := by simp [applyResolution, resolutionRequest, Filled.keep]

theorem settles (hn : answers.Named) : external.Settles answers := by
  refine taking.settles hn (fun _ => rfl) fun {now r observed left} hp h _ => ?_
  obtain ⟨hfinds, t, hfilled⟩ := finds hp h
  refine ⟨hfinds, ?_⟩
  rw [hfilled]
  rfl

end Topic

/-! ## Service instances -/

namespace ResourceInstance

variable {now : String} {r left : Managed .resourceInstance} {observed : Observed}

/-- An instance is seen where it could be filled in and compared. -/
theorem run_see {remote : Remote} :
    (see now r remote).run answers = .ok observed left ↔ ∃ changed filled upToDate,
      (Parameters.lateInitialize r.spec.forProvider remote).run
        (fun q => answers (.cloud (.catalog q))) = (.ok changed, filled) ∧
      (filled.isUpToDate remote).run (fun q => answers (.cloud (.catalog q))) = .ok upToDate ∧
      observed = ⟨true, upToDate, changed, []⟩ ∧
      left = recordRemote now (r.setParameters filled) remote := by
  rw [see, bind_eq, run_bind, run_ofCatalog]
  generalize (Parameters.lateInitialize r.spec.forProvider remote).run
    (fun q => answers (.cloud (.catalog q))) = out
  obtain ⟨late, filled⟩ := out
  cases late with
  | error e => exact iff_of_false nofun (by simp)
  | ok changed =>
    dsimp only
    rw [bind_eq, run_bind, run_ofCatalog]
    cases hu : (filled.isUpToDate remote).run (fun q => answers (.cloud (.catalog q))) with
    | error e =>
      refine iff_of_false nofun ?_
      rintro ⟨_, _, _, hl, hu', -⟩
      cases hl
      rw [hu] at hu'
      cases hu'
    | ok upToDate =>
      constructor
      · intro h
        cases h
        exact ⟨changed, filled, upToDate, rfl, hu, rfl, rfl⟩
      · rintro ⟨_, _, _, hl, hu', rfl, rfl⟩
        cases hl
        rw [hu] at hu'
        cases hu'
        rfl

theorem finds (hp : observed.present = true) (h : (observe now r).run answers = .ok observed left) :
    external.Finds answers now r observed left := by
  obtain ⟨id, hid, h⟩ := (run_known hp).mp h
  obtain ⟨remote, hr, h⟩ := (run_fetched (fun e => rfl) rfl hp).mp h
  obtain ⟨changed, filled, upToDate, hlate, hupToDate, rfl, rfl⟩ := run_see.mp h
  refine ⟨filled, remote.observation, remote.state.readiness, rfl, remote.state.ready,
    fun now' r' hm hspec => ⟨[], ?_⟩⟩
  have hid' : r'.externalName = some id := by rwa [Managed.externalName, hm]
  have hfilled : r'.spec.forProvider = filled := congrArg Spec.forProvider hspec
  refine (run_known rfl).mpr ⟨id, hid', (run_fetched (fun e => rfl) rfl rfl).mpr ⟨remote, hr, ?_⟩⟩
  refine run_see.mpr ⟨false, filled, upToDate, ?_, hupToDate, rfl, rfl⟩
  rw [hfilled]
  exact Parameters.lateInitialize_again hlate

theorem settles : external.Settles answers := fun _ _ hobserve hp _ hc =>
  (finds hp hobserve).settled (fun _ _ => rfl) hc

end ResourceInstance

/-- **Every kind settles.** With fixed answers, in which what is listed is found by its name: where
references have been resolved, nothing is pending and the remote object was found, resolving and
observing again changes nothing, and finds the object up to date exactly where it was before. -/
theorem External.settles_ofKind (k : Kind) (hn : answers.Named) :
    (External.ofKind k).Settles answers := by
  cases k with
  | vpc => exact Vpc.settles
  | subnet => exact Subnet.settles hn
  | resourceInstance => exact ResourceInstance.settles
  | resourceKey => exact ResourceKey.settles hn
  | topic => exact Topic.settles hn

end ResourceOperator
