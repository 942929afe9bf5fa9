import ResourceOperator.Proofs.External.Settling

/-!
# What an observation comes to

An observation asks for the remote object first, where the resource tells which one that is, and
asks the catalog for names after it, where the object is an instance. `Sighting` has one case for
each way that can go, with everything that is exchanged. What counts as absence is then a matter of
the answer to the first question: an object is absent where the cloud does not know it or reports it
past its end, and where the resource does not tell of one. A name that is missing from the catalog
makes the observation fail, and says nothing about the object.

Results:
* `Outside.run_ofCatalog_iff`: what is exchanged by a dialogue with the catalog.
* `External.sighting_of_run`: every observation of every kind is a sighting.
* `absence_exact`: which observations report absence, and what the others come to.
* `missingPlan_no_absence`: this for an instance whose plan the catalog does not know.
-/

namespace ResourceOperator

open Dialogue Outside

variable {k : Kind}

/-! ## What is asked for -/

/-- The answer tells of an object that is past its end. -/
def Cloud.Call.gone : (call : Cloud.Call) → call.Result → Bool
  | .controller (.getInstance _), remote =>
    remote.state = .removed || remote.state = .pendingReclamation
  | .controller (.getKey _), remote => remote.state = .removed
  | _, _ => false

/-- The answer tells of a network or a subnet that is being deleted. -/
def Cloud.Call.deleting : (call : Cloud.Call) → call.Result → Bool
  | .network (.getVpc _), v => v.status = .deleting
  | .network (.getSubnet _), s => s.status = .deleting
  | _, _ => false

/-- What is reported where the remote object of a kind could not be asked for. -/
def Kind.getFailure : Kind → String
  | .vpc => "cannot get VPC"
  | .subnet => "cannot get subnet"
  | .resourceInstance => "cannot get resource instance"
  | .resourceKey => "cannot get resource key"
  | .topic => "cannot get topic"

namespace Managed

/-- The call for the remote object, where the resource tells which one that is. -/
def sought : {k : Kind} → Managed k → Option Cloud.Call
  | .vpc, r => r.externalName.map fun id => .network (.getVpc id)
  | .subnet, r => r.externalName.map fun id => .network (.getSubnet id)
  | .resourceInstance, r => r.externalName.map fun id => .controller (.getInstance id)
  | .resourceKey, r => r.externalName.map fun id => .controller (.getKey id)
  | .topic, r =>
    ((r.spec.forProvider : Topic.Parameters).kafkaAdminUrl.filter fun url => !url.isEmpty).map
      fun url => .events (.getTopic url (Topic.topicName r))

/-- The resource tells of no remote object: the annotation for its id is missing or empty, or, for a
topic, which needs none, the admin URL is while the topic is being deleted. -/
def Undesignated : {k : Kind} → Managed k → Prop
  | .topic, r =>
    r.metadata.deletionTimestamp.isSome = true ∧
      (r.spec.forProvider : Topic.Parameters).kafkaAdminUrl.getD "" = ""
  | _, r => (Table.get? Metadata.externalNameKey r.metadata.annotationTable).getD "" = ""

end Managed

/-- The operation reports that the remote object does not exist. -/
def Outcome.ReportsAbsence (o : Outcome k Observed) : Prop :=
  ∃ observed, o.result = .ok observed ∧ observed.present = false

/-! ## The catalog -/

/-- A lookup in the catalog is one of the exchanges with the outside. -/
def Outside.onCatalog (x : Exchange Cloud.Catalog) : Exchange Outside :=
  ⟨.cloud (.catalog x.question), x.answer⟩

/-- What is exchanged by a dialogue with the catalog, and how it ends. -/
theorem Outside.run_ofCatalog_iff {α : Type} {d : Dialogue Cloud.Catalog α}
    {log : List (Exchange Outside)} {a : α} :
    Run (ofCatalog d) log a ↔ ∃ looked, Run d looked a ∧ log = looked.map onCatalog := by
  have hpass : ∀ (x : Exchange Cloud.Catalog) (log : List (Exchange Outside)),
      Run (Dialogue.call (I := Outside) (.cloud (.catalog x.question))) log x.answer ↔
        log = [onCatalog x] := fun x log => run_call_iff
  exact run_forward_iff.trans (exists_congr fun _ => and_congr_right fun _ => answering_map hpass)

/-- Each lookup has found a name. -/
def Answered (looked : List (Exchange Cloud.Catalog)) : Prop :=
  ∀ x ∈ looked, ∃ q name, x = ⟨q, .ok name⟩

theorem Answered.nil : Answered [] := nofun

theorem Answered.append {first rest : List (Exchange Cloud.Catalog)} (hf : Answered first)
    (hr : Answered rest) : Answered (first ++ rest) := by
  intro x hx
  rcases List.mem_append.mp hx with hx | hx
  · exact hf x hx
  · exact hr x hx

/-- A dialogue with the catalog ends where a lookup has failed, and with that failure. -/
inductive Consulted {α : Type} : List (Exchange Cloud.Catalog) → Except EngineError α → Prop where
  | answered {looked : List (Exchange Cloud.Catalog)} (h : Answered looked) (a : α) :
    Consulted looked (.ok a)
  | failed {looked : List (Exchange Cloud.Catalog)} (h : Answered looked) (q : Cloud.CatalogCall)
      (e : Cloud.Failure) (context : String) :
    Consulted (looked ++ [⟨q, .error e⟩]) (.error (.lookup context e))

namespace Consulted

variable {α β γ : Type} {first rest log : List (Exchange Cloud.Catalog)}

/-- What is looked up after names that were found. -/
theorem after (hf : Answered first) {out : Except EngineError α} (h : Consulted rest out) :
    Consulted (first ++ rest) out := by
  cases h with
  | answered hr a => exact .answered (hf.append hr) a
  | failed hr q e context =>
    rw [← List.append_assoc]
    exact .failed (hf.append hr) q e context

theorem map {out : Except EngineError α} (h : Consulted log out) (f : α → β) :
    Consulted log (out.map f) := by
  cases h with
  | answered hl a => exact .answered hl (f a)
  | failed hl q e context => exact .failed hl q e context

/-- A dialogue that goes on where names were found, and else ends with the failure. -/
theorem bind {d : Dialogue Cloud.Catalog (Except EngineError α)}
    {f : Except EngineError α → Dialogue Cloud.Catalog β} {view : β → Except EngineError γ}
    (hd : ∀ {log out}, Run d log out → Consulted log out)
    (herror : ∀ {e log b}, Run (f (.error e)) log b → log = [] ∧ view b = .error e)
    (hok : ∀ {a log b}, Run (f (.ok a)) log b → Consulted log (view b)) {b : β}
    (run : Run (d >>= f) log b) : Consulted log (view b) := by
  obtain ⟨first, rest, out, hfirst, hrest, rfl⟩ := Run.bind.mp run
  cases hd hfirst with
  | answered hl a => exact (hok hrest).after hl
  | failed hl q e context =>
    obtain ⟨rfl, hview⟩ := herror hrest
    rw [hview, List.append_nil]
    exact .failed hl q e context

/-- One lookup. -/
theorem lookup {q : Cloud.CatalogCall} {context : String} {out : Except EngineError String}
    (run : Run (Dialogue.call (I := Cloud.Catalog) q >>= fun answer =>
      pure (answer.mapError (.lookup context))) log out) : Consulted log out := by
  obtain ⟨answer, rfl, rfl⟩ := run_ask_done_iff.mp run
  cases answer with
  | error e => exact .failed .nil q e context
  | ok name => exact .answered (fun x hx => ⟨q, name, List.mem_singleton.mp hx⟩) name

end Consulted

namespace ResourceInstance

variable {log : List (Exchange Cloud.Catalog)}

theorem consulted_planName {service id : String} {out : Except EngineError String}
    (run : Run (planName service id) log out) : Consulted log out := by
  rw [planName] at run
  split at run
  · obtain ⟨rfl, rfl⟩ := run_done_iff.mp run
    exact .answered .nil ""
  · exact Consulted.lookup run

theorem consulted_groupName {id : String} {out : Except EngineError String}
    (run : Run (groupName id) log out) : Consulted log out := by
  rw [groupName] at run
  split at run
  · obtain ⟨rfl, rfl⟩ := run_done_iff.mp run
    exact .answered .nil ""
  · exact Consulted.lookup run

/-- A name that is set is not looked up. -/
theorem consulted_looked {name : String}
    {lookup : Dialogue Cloud.Catalog (Except EngineError String)}
    (h : ∀ {log out}, Run lookup log out → Consulted log out) {out : Except EngineError String}
    (run : Run (looked name lookup) log out) : Consulted log out := by
  rw [looked] at run
  split at run
  · exact h run
  · obtain ⟨rfl, rfl⟩ := run_done_iff.mp run
    exact .answered .nil ""

theorem looked_bind {α : Type} (name : String)
    (lookup : Dialogue Cloud.Catalog (Except EngineError String))
    (f : Except EngineError String → Dialogue Cloud.Catalog α) :
    (if name.isEmpty = true then lookup >>= f else pure (.ok "") >>= f) =
      looked name lookup >>= f := by
  rw [looked]
  split <;> rfl

/-- Filling in ends with the failure of a lookup, if there is one. -/
theorem consulted_lateInitialize {p : Parameters} {remote : Remote}
    {out : Except EngineError Bool × Parameters} (run : Run (p.lateInitialize remote) log out) :
    Consulted log out.1 := by
  rw [Parameters.lateInitialize] at run
  dsimp only at run
  rw [looked_bind] at run
  refine Consulted.bind (consulted_looked consulted_groupName) (fun run => ?_) (fun run => ?_) run
  · obtain ⟨rfl, rfl⟩ := run_done_iff.mp run
    exact ⟨rfl, rfl⟩
  dsimp only at run
  rw [looked_bind] at run
  refine Consulted.bind (consulted_looked consulted_planName) (fun run => ?_) (fun run => ?_) run
  · obtain ⟨rfl, rfl⟩ := run_done_iff.mp run
    exact ⟨rfl, rfl⟩
  · obtain ⟨rfl, rfl⟩ := run_done_iff.mp run
    exact .answered .nil _

/-- So does comparing. -/
theorem consulted_isUpToDate {p : Parameters} {remote : Remote} {out : Except EngineError Bool}
    (run : Run (p.isUpToDate remote) log out) : Consulted log out := by
  rw [Parameters.isUpToDate, Parameters.changedFields] at run
  obtain ⟨first, _, fields, hfields, hdone, rfl⟩ := Run.bind.mp run
  obtain ⟨rfl, rfl⟩ := run_done_iff.mp hdone
  obtain ⟨first, _, plan, hplan, hdone, rfl⟩ := Run.bind.mp hfields
  obtain ⟨rfl, rfl⟩ := run_done_iff.mp hdone
  rw [List.append_nil, List.append_nil]
  exact ((consulted_planName hplan).map _).map _

end ResourceInstance

/-! ## Sightings -/

/-- What an observation of a resource comes to: what is exchanged, and how it ends. -/
inductive Sighting (r : Managed k) : List (Exchange Outside) → Outcome k Observed → Prop where
  /-- The resource tells of no object, and nothing is asked. -/
  | untold (hs : r.sought = none) (hr : r.Undesignated) : Sighting r [] (.ok .absent r)
  /-- The resource should tell of an object and does not. -/
  | misconfigured (hs : r.sought = none) (hr : ¬ r.Undesignated) (e : EngineError) :
    Sighting r [] (.fail e r)
  /-- The cloud does not know the object. -/
  | unknown {call : Cloud.Call} (hs : r.sought = some call) (what : String) :
    Sighting r [⟨.cloud call, .error (.notFound what)⟩] (.ok .absent r)
  /-- The cloud does not tell. -/
  | failed {call : Cloud.Call} (hs : r.sought = some call) {e : Cloud.Failure}
      (he : e.isNotFound = false) :
    Sighting r [⟨.cloud call, .error e⟩] (.fail (.cloud k.getFailure e) r)
  /-- The object is past its end. -/
  | past {call : Cloud.Call} (hs : r.sought = some call) {v : call.Result}
      (hv : call.gone v = true) :
    Sighting r [⟨.cloud call, .ok v⟩] (.ok .absent r)
  /-- The object exists, and a name that goes with it is not found in the catalog. -/
  | unnamed {call : Cloud.Call} (hs : r.sought = some call) {v : call.Result}
      (hv : call.gone v = false) {looked : List (Exchange Cloud.Catalog)} (hl : Answered looked)
      (q : Cloud.CatalogCall) (e : Cloud.Failure) (context : String) (filled : Parameters k) :
    Sighting r
      (⟨.cloud call, .ok v⟩ :: (looked ++ [(⟨q, .error e⟩ : Exchange Cloud.Catalog)]).map onCatalog)
      (.fail (.lookup context e) (r.setParameters filled))
  /-- The object exists, and the condition that is set says whether it is being deleted. -/
  | found {call : Cloud.Call} (hs : r.sought = some call) {v : call.Result}
      (hv : call.gone v = false) {looked : List (Exchange Cloud.Catalog)} (hl : Answered looked)
      {observed : Observed} (hp : observed.present = true) {filled : Parameters k}
      {o : Observation k} {c : Condition} (haspect : c.aspect = .ready)
      (hreason : c.reason = .deleting ↔ call.deleting v = true)
      (hleft : (r.seen filled o c).sought = r.sought) :
    Sighting r (⟨.cloud call, .ok v⟩ :: looked.map onCatalog) (.ok observed (r.seen filled o c))

/-! ## Shapes of observations -/

section Shapes

variable {r : Managed k} {call : Cloud.Call} {log : List (Exchange Outside)}
  {o : Outcome k Observed}

/-- A text that is unset or empty. -/
theorem filter_eq_none_iff {s : Option String} :
    (s.filter fun s => !s.isEmpty) = none ↔ s.getD "" = "" := by
  cases s with
  | none => simp
  | some s => simp [Option.filter]

namespace Sighting

/-- An observation that asks nothing without an id. -/
theorem of_known {d : String → Dialogue Outside (Outcome k Observed)}
    (hs : r.externalName = none → r.sought = none ∧ r.Undesignated)
    (hd : ∀ {id}, r.externalName = some id → Run (d id) log o → Sighting r log o)
    (run : Run (match r.externalName with
      | none => pure (.ok .absent r)
      | some id => d id) log o) : Sighting r log o := by
  cases hid : r.externalName with
  | none =>
    rw [hid] at run
    obtain ⟨rfl, rfl⟩ := run_done_iff.mp run
    exact .untold (hs hid).1 (hs hid).2
  | some id =>
    rw [hid] at run
    exact hd hid run

/-- An observation that asks for the object and takes it for absent where it is not found. -/
theorem of_call (hs : r.sought = some call)
    {f : Except Cloud.Failure call.Result → Dialogue Outside (Outcome k Observed)}
    (he : ∀ e, f (.error e) = if e.isNotFound = true then pure (.ok .absent r)
      else pure (.fail (.cloud k.getFailure e) r))
    (hok : ∀ {v rest o}, Run (f (.ok v)) rest o → Sighting r (⟨.cloud call, .ok v⟩ :: rest) o)
    (run : Run (cloud call >>= f) log o) : Sighting r log o := by
  obtain ⟨answer, rest, hrest, rfl⟩ := run_ask_iff.mp run
  cases answer with
  | ok v => exact hok hrest
  | error e =>
    have hrest : Run (f (.error e)) rest o := hrest
    rw [he] at hrest
    split at hrest
    case isTrue h =>
      obtain ⟨rfl, rfl⟩ := run_done_iff.mp hrest
      cases e with
      | notFound what => exact .unknown hs what
      | _ => cases h
    case isFalse h =>
      obtain ⟨rfl, rfl⟩ := run_done_iff.mp hrest
      exact .failed hs (Bool.eq_false_iff.mpr h)

/-- Fetches an object, unless it is past its end. -/
def fetching (call : Cloud.Call) (context : String) :
    Dialogue Outside (Except EngineError (Option call.Result)) :=
  cloud call >>= fun
    | .error e => if e.isNotFound then pure (.ok none) else pure (.error (.cloud context e))
    | .ok v => pure (.ok (if call.gone v then none else some v))

/-- An observation that fetches the object. -/
theorem of_fetching (hs : r.sought = some call)
    {f : Except EngineError (Option call.Result) → Dialogue Outside (Outcome k Observed)}
    (he : ∀ e, f (.error e) = pure (.fail e r)) (hnone : f (.ok none) = pure (.ok .absent r))
    (hsome : ∀ {v rest o}, call.gone v = false → Run (f (.ok (some v))) rest o →
      Sighting r (⟨.cloud call, .ok v⟩ :: rest) o)
    (run : Run (fetching call k.getFailure >>= f) log o) : Sighting r log o := by
  rw [fetching, bind_eq, bind_eq, bind_assoc] at run
  refine of_call hs (fun e => ?_) (fun {v rest o} hrest => ?_) run
  · dsimp only
    split
    · exact hnone
    · exact he _
  · have hrest : Run (f (.ok (if call.gone v then none else some v))) rest o := hrest
    cases hv : call.gone v with
    | true =>
      rw [hv, if_pos rfl, hnone] at hrest
      obtain ⟨rfl, rfl⟩ := run_done_iff.mp hrest
      exact .past hs hv
    | false =>
      rw [hv] at hrest
      exact hsome hv hrest

end Sighting

end Shapes

/-! ## Every kind -/

theorem Cloud.NetworkState.readiness_reason (s : NetworkState) (now : String) :
    (s.readiness now).reason = .deleting ↔ s = .deleting := by
  cases s <;> simp [readiness, Condition.available, Condition.creating, Condition.deleting,
    Condition.unavailable]

/-- The condition of an instance that exists does not say that it is being deleted. -/
theorem ResourceInstance.State.readiness_reason {s : State} (hs : s.isPresent = true)
    (now : String) : (s.readiness now).reason ≠ .deleting := by
  cases s <;> simp_all [readiness, isPresent, Condition.available, Condition.creating,
    Condition.unavailable]

theorem ResourceKey.State.readiness_reason {s : State} (hs : s ≠ .removed) (now : String) :
    (s.readiness now).reason ≠ .deleting := by
  cases s <;> simp_all [readiness, Condition.available, Condition.unavailable]

theorem ResourceInstance.State.isPresent_eq (s : State) :
    s.isPresent = !(s = .removed || s = .pendingReclamation) := by
  cases s <;> rfl

theorem ResourceInstance.isPresent_eq (id : String) (remote : Remote) :
    remote.state.isPresent = !Cloud.Call.gone (.controller (.getInstance id)) remote :=
  remote.state.isPresent_eq

section Kinds

variable {now : String} {log : List (Exchange Outside)}

theorem Vpc.sighting {r : Managed .vpc} {o : Outcome .vpc Observed}
    (run : Run (observe now r) log o) : Sighting r log o := by
  refine .of_known (fun hid => ⟨?_, filter_eq_none_iff.mp hid⟩) (fun {id} hid run => ?_) run
  · rw [Managed.sought, hid]
    rfl
  have hs : r.sought = some (.network (.getVpc id)) := by
    rw [Managed.sought, hid]
    rfl
  refine .of_call hs (fun e => rfl) (fun {v rest o} hrest => ?_) run
  obtain ⟨rfl, rfl⟩ := run_done_iff.mp hrest
  refine .found hs rfl .nil rfl (v.status.ready.aspect now) ?_ rfl
  rw [Cloud.NetworkState.readiness_reason, Cloud.Call.deleting, decide_eq_true_iff]

theorem Subnet.sighting {r : Managed .subnet} {o : Outcome .subnet Observed}
    (run : Run (observe now r) log o) : Sighting r log o := by
  refine .of_known (fun hid => ⟨?_, filter_eq_none_iff.mp hid⟩) (fun {id} hid run => ?_) run
  · rw [Managed.sought, hid]
    rfl
  have hs : r.sought = some (.network (.getSubnet id)) := by
    rw [Managed.sought, hid]
    rfl
  refine .of_call hs (fun e => rfl) (fun {v rest o} hrest => ?_) run
  obtain ⟨rfl, rfl⟩ := run_done_iff.mp hrest
  refine .found hs rfl .nil rfl (v.status.ready.aspect now) ?_ rfl
  rw [Cloud.NetworkState.readiness_reason, Cloud.Call.deleting, decide_eq_true_iff]

theorem ResourceKey.sighting {r : Managed .resourceKey} {o : Outcome .resourceKey Observed}
    (run : Run (observe now r) log o) : Sighting r log o := by
  refine .of_known (fun hid => ⟨?_, filter_eq_none_iff.mp hid⟩) (fun {id} hid run => ?_) run
  · rw [Managed.sought, hid]
    rfl
  have hs : r.sought = some (.controller (.getKey id)) := by
    rw [Managed.sought, hid]
    rfl
  have hfetch :
      fetch id = Sighting.fetching (.controller (.getKey id)) "cannot get resource key" := by
    refine congrArg (cloud _ >>= ·) (funext fun answer => ?_)
    cases answer with
    | error e => rfl
    | ok remote => simp [Cloud.Call.gone]
  rw [hfetch] at run
  refine .of_fetching hs (fun e => rfl) rfl (fun {remote rest o} hpresent hrest => ?_) run
  obtain ⟨rfl, rfl⟩ := run_done_iff.mp hrest
  refine .found hs hpresent .nil rfl (remote.state.ready.aspect now) ?_ rfl
  have hstate : remote.state ≠ .removed := by simpa [Cloud.Call.gone] using hpresent
  exact iff_of_false (ResourceKey.State.readiness_reason hstate now) Bool.false_ne_true

theorem Topic.sighting {r : Managed .topic} {o : Outcome .topic Observed}
    (run : Run (observe now r) log o) : Sighting r log o := by
  rw [observe, adminUrl] at run
  cases hurl : (r.spec.forProvider : Parameters).kafkaAdminUrl.filter fun url => !url.isEmpty with
  | none =>
    have hs : r.sought = none := by
      rw [Managed.sought, hurl]
      rfl
    rw [hurl] at run
    obtain ⟨rfl, rfl⟩ := run_done_iff.mp run
    cases hdeleted : r.metadata.isDeleted with
    | true => exact .untold hs ⟨hdeleted, filter_eq_none_iff.mp hurl⟩
    | false =>
      refine .misconfigured hs (fun h => ?_) _
      have hisDeleted : r.metadata.isDeleted = true := h.1
      rw [hdeleted] at hisDeleted
      cases hisDeleted
  | some url =>
    have hs : r.sought = some (.events (.getTopic url (topicName r))) := by
      rw [Managed.sought, hurl]
      rfl
    rw [hurl] at run
    refine .of_call hs (fun e => rfl) (fun {t rest o} hrest => ?_) run
    obtain ⟨rfl, rfl⟩ := run_done_iff.mp hrest
    refine .found hs rfl .nil rfl rfl (iff_of_false (fun h => ?_) Bool.false_ne_true) rfl
    cases h

theorem ResourceInstance.sighting {r : Managed .resourceInstance}
    {o : Outcome .resourceInstance Observed} (run : Run (observe now r) log o) :
    Sighting r log o := by
  refine .of_known (fun hid => ⟨?_, filter_eq_none_iff.mp hid⟩) (fun {id} hid run => ?_) run
  · rw [Managed.sought, hid]
    rfl
  have hs : r.sought = some (.controller (.getInstance id)) := by
    rw [Managed.sought, hid]
    rfl
  have hfetch : fetch id =
      Sighting.fetching (.controller (.getInstance id)) "cannot get resource instance" := by
    refine congrArg (cloud _ >>= ·) (funext fun answer => ?_)
    cases answer with
    | error e => rfl
    | ok remote =>
      simp only [isPresent_eq id]
      cases Cloud.Call.gone (.controller (.getInstance id)) remote <;> rfl
  rw [hfetch] at run
  refine .of_fetching hs (fun e => rfl) rfl (fun {remote rest o} hpresent hrest => ?_) run
  obtain ⟨first, last, ⟨late, filled⟩, hlate, hrest, rfl⟩ := Run.bind.mp hrest
  obtain ⟨looked, hlooked, rfl⟩ := run_ofCatalog_iff.mp hlate
  have hconsulted := consulted_lateInitialize hlooked
  dsimp only at hrest hconsulted
  cases hconsulted with
  | failed hl q e context =>
    obtain ⟨rfl, rfl⟩ := run_done_iff.mp hrest
    rw [List.append_nil]
    exact .unnamed hs hpresent hl q e context filled
  | answered hl changed =>
    obtain ⟨_, last, upToDate, hupToDate, hdone, rfl⟩ := Run.bind.mp hrest
    obtain ⟨compared, hcompared, rfl⟩ := run_ofCatalog_iff.mp hupToDate
    cases consulted_isUpToDate hcompared with
    | failed hl' q e context =>
      obtain ⟨rfl, rfl⟩ := run_done_iff.mp hdone
      rw [List.append_nil, ← List.map_append, ← List.append_assoc]
      exact .unnamed hs hpresent (hl.append hl') q e context filled
    | answered hl' upToDate =>
      obtain ⟨rfl, rfl⟩ := run_done_iff.mp hdone
      rw [List.append_nil, ← List.map_append]
      refine .found hs hpresent (hl.append hl') rfl (remote.state.ready.aspect now) ?_ rfl
      have hstate : remote.state.isPresent = true := by
        rw [isPresent_eq id, hpresent]
        rfl
      exact iff_of_false (State.readiness_reason hstate now) Bool.false_ne_true

end Kinds

/-- Every observation of every kind is a sighting. -/
theorem External.sighting_of_run {now : String} {r : Managed k} {log : List (Exchange Outside)}
    {o : Outcome k Observed} (run : Run ((External.ofKind k).observe now r) log o) :
    Sighting r log o := by
  cases k with
  | vpc => exact Vpc.sighting run
  | subnet => exact Subnet.sighting run
  | resourceInstance => exact ResourceInstance.sighting run
  | resourceKey => exact ResourceKey.sighting run
  | topic => exact Topic.sighting run

/-! ## What counts as absence -/

section Absence

variable {r : Managed k} {call : Cloud.Call} {log : List (Exchange Outside)}
  {o : Outcome k Observed}

theorem Managed.not_catalog_of_sought (hs : r.sought = some call) (q : Cloud.CatalogCall) :
    call ≠ .catalog q := by
  rintro rfl
  cases k <;> obtain ⟨_, -, h⟩ := Option.map_eq_some_iff.mp hs <;> cases h

theorem Managed.sought_of_undesignated (h : r.Undesignated) : r.sought = none := by
  cases k with
  | topic => exact Option.map_eq_none_iff.mpr (filter_eq_none_iff.mpr h.2)
  | _ => exact Option.map_eq_none_iff.mpr (filter_eq_none_iff.mpr h)

/-- Names that were found are no failed lookup. -/
theorem Answered.not_mem {looked : List (Exchange Cloud.Catalog)} (hl : Answered looked)
    (q : Cloud.CatalogCall) (e : Cloud.Failure) :
    ⟨.cloud (.catalog q), .error e⟩ ∉ looked.map onCatalog := by
  intro h
  obtain ⟨x, hx, he⟩ := List.mem_map.mp h
  obtain ⟨q', name, rfl⟩ := hl x hx
  cases he

/-- The answer to the call for an object says that it does not exist. -/
def Cloud.Call.SaysAbsent (call : Cloud.Call) (answer : Except Cloud.Failure call.Result) : Prop :=
  (∃ what, answer = .error (.notFound what)) ∨ ∃ v, answer = .ok v ∧ call.gone v = true

theorem Cloud.Call.saysAbsent_error {e : Cloud.Failure} :
    call.SaysAbsent (.error e) ↔ e.isNotFound = true := by
  cases e <;> simp [SaysAbsent, Cloud.Failure.isNotFound]

theorem Cloud.Call.saysAbsent_ok {v : call.Result} :
    call.SaysAbsent (.ok v) ↔ call.gone v = true := by
  simp [SaysAbsent]

theorem Cloud.Call.not_saysAbsent_ok {v : call.Result} (hv : call.gone v = false) :
    ¬ call.SaysAbsent (.ok v) := by
  rw [saysAbsent_ok, hv]
  exact Bool.false_ne_true

/-- What an observation says about the absence of the remote object, after these exchanges. -/
structure TellsAbsence (r : Managed k) (log : List (Exchange Outside)) (o : Outcome k Observed) :
    Prop where
  /-- The object is asked for first, where the resource tells of one, and then the catalog. -/
  asked : ∀ call, r.sought = some call →
    ∃ (answer : Except Cloud.Failure call.Result) (looked : List (Exchange Cloud.Catalog)),
      log = ⟨.cloud call, answer⟩ :: looked.map onCatalog
  /-- It is absent where the resource tells of none, and where the answer says so. -/
  absent_iff : o.ReportsAbsence ↔ r.Undesignated ∨ ∃ call answer rest, r.sought = some call ∧
    log = ⟨.cloud call, answer⟩ :: rest ∧ call.SaysAbsent answer
  /-- Where the resource tells of none, nothing is asked. -/
  unasked : r.Undesignated → log = []
  /-- An absent object leaves the resource as it is. -/
  unchanged : o.ReportsAbsence → o = .ok .absent r
  /-- So does any other failure, which is reported. -/
  failed : ∀ call e rest, r.sought = some call → log = ⟨.cloud call, .error e⟩ :: rest →
    e.isNotFound = false → o = .fail (.cloud k.getFailure e) r
  /-- A failed lookup in the catalog is reported as one, whatever the failure. -/
  lookup_failed : ∀ q e, ⟨.cloud (.catalog q), .error e⟩ ∈ log →
    ∃ context, o.result = .error (.lookup context e)

namespace TellsAbsence

/-- A resource that tells of no object. -/
theorem of_untold (hs : r.sought = none) (ho : o.ReportsAbsence ↔ r.Undesignated)
    (hleft : o.ReportsAbsence → o = .ok .absent r) : TellsAbsence r [] o where
  asked call hcall := by
    rw [hs] at hcall
    cases hcall
  absent_iff := by
    refine ho.trans (or_iff_left ?_).symm
    rintro ⟨_, _, _, hcall, -⟩
    rw [hs] at hcall
    cases hcall
  unasked _ := rfl
  unchanged := hleft
  failed _ _ _ hcall := by
    rw [hs] at hcall
    cases hcall
  lookup_failed _ _ hx := absurd hx List.not_mem_nil

/-- A resource whose object is asked for. -/
theorem of_told (looked : List (Exchange Cloud.Catalog)) (hs : r.sought = some call)
    {answer : Except Cloud.Failure call.Result}
    (ho : o.ReportsAbsence ↔ call.SaysAbsent answer)
    (hleft : o.ReportsAbsence → o = .ok .absent r)
    (hfailed : ∀ e, answer = .error e → e.isNotFound = false →
      o = .fail (.cloud k.getFailure e) r)
    (hlookup : ∀ q e, ⟨.cloud (.catalog q), .error e⟩ ∈ looked.map onCatalog →
      ∃ context, o.result = .error (.lookup context e)) :
    TellsAbsence r (⟨.cloud call, answer⟩ :: looked.map onCatalog) o where
  asked call' hcall := by
    obtain rfl : call = call' := Option.some.inj (hs.symm.trans hcall)
    exact ⟨answer, looked, rfl⟩
  absent_iff := by
    refine ho.trans ⟨?_, ?_⟩
    · intro hanswer
      exact .inr ⟨call, answer, _, hs, rfl, hanswer⟩
    · rintro (hr | ⟨call', answer', rest, -, hlog, hanswer⟩)
      · rw [Managed.sought_of_undesignated hr] at hs
        cases hs
      · obtain ⟨hx, -⟩ := List.cons.inj hlog
        cases hx
        exact hanswer
  unasked hr := by
    rw [Managed.sought_of_undesignated hr] at hs
    cases hs
  unchanged := hleft
  failed call' e rest _ hlog he := by
    obtain ⟨hx, -⟩ := List.cons.inj hlog
    cases hx
    exact hfailed e rfl he
  lookup_failed q e hx := by
    rcases List.mem_cons.mp hx with hx | hx
    · cases hx
      exact absurd rfl (Managed.not_catalog_of_sought hs q)
    · exact hlookup q e hx

end TellsAbsence

theorem Outcome.reportsAbsence_absent : (Outcome.ok .absent r).ReportsAbsence :=
  ⟨.absent, rfl, rfl⟩

theorem Outcome.not_reportsAbsence_fail (e : EngineError) :
    ¬ (Outcome.fail e r : Outcome k Observed).ReportsAbsence := by
  rintro ⟨observed, ho, -⟩
  cases ho

/-- **What counts as absence.** Whatever the cloud and the catalog answer, an observation of any
kind reports that the remote object does not exist exactly where the resource tells of none, or the
cloud does not know the object or reports it past its end, and then leaves the resource as it is.
Any other failure of that call is reported, and so is a failed lookup in the catalog, also one that
finds nothing. -/
theorem absence_exact {now : String} (run : Run ((External.ofKind k).observe now r) log o) :
    TellsAbsence r log o := by
  cases External.sighting_of_run run with
  | untold hs hr =>
    exact .of_untold hs (iff_of_true Outcome.reportsAbsence_absent hr) fun _ => rfl
  | misconfigured hs hr e =>
    have ho := Outcome.not_reportsAbsence_fail (r := r) e
    exact .of_untold hs (iff_of_false ho hr) fun h => absurd h ho
  | @unknown call hs what =>
    have habsent : call.SaysAbsent (.error (.notFound what)) := .inl ⟨what, rfl⟩
    refine .of_told [] hs
      (iff_of_true Outcome.reportsAbsence_absent habsent) (fun _ => rfl) ?_ nofun
    rintro _ ⟨⟩ h
    cases h
  | @failed call hs e he =>
    have ho := Outcome.not_reportsAbsence_fail (r := r) (.cloud k.getFailure e)
    have htold : ¬ call.SaysAbsent (.error e) := by
      rw [Cloud.Call.saysAbsent_error, he]
      exact Bool.false_ne_true
    refine .of_told [] hs (iff_of_false ho htold) (fun h => absurd h ho) ?_ nofun
    rintro _ ⟨⟩ -
    rfl
  | past hs hv =>
    have habsent := Cloud.Call.saysAbsent_ok.mpr hv
    exact .of_told [] hs
      (iff_of_true Outcome.reportsAbsence_absent habsent) (fun _ => rfl) nofun nofun
  | @unnamed call hs v hv looked hl q e context filled =>
    have ho := Outcome.not_reportsAbsence_fail (r := r.setParameters filled) (.lookup context e)
    refine .of_told _ hs (iff_of_false ho (Cloud.Call.not_saysAbsent_ok hv))
      (fun h => absurd h ho) nofun
      fun q' e' hx => ?_
    rw [List.map_append] at hx
    rcases List.mem_append.mp hx with hx | hx
    · exact absurd hx (hl.not_mem q' e')
    · cases List.mem_singleton.mp hx
      exact ⟨context, rfl⟩
  | @found call hs v hv looked hl observed hp filled ob c haspect hreason hleft =>
    have ho : ¬ (Outcome.ok observed (r.seen filled ob c)).ReportsAbsence := by
      rintro ⟨_, ⟨⟩, habsent⟩
      rw [hp] at habsent
      cases habsent
    exact .of_told looked hs (iff_of_false ho (Cloud.Call.not_saysAbsent_ok hv))
      (fun h => absurd h ho) nofun
      fun q e hx => absurd hx (hl.not_mem q e)

end Absence

/-- A declared instance with an id, and with the name of its plan. -/
def plannedInstance : Managed .resourceInstance where
  metadata := { Metadata.empty with annotations := some [(Metadata.externalNameKey, "i-1")] }
  spec := ⟨⟨"kafka", "us-south", "default", "messagehub", "standard", none, none, none, none⟩,
    .delete, none, ()⟩
  status := none

/-- Its instance in the cloud, which is active. -/
def activeInstance : ResourceInstance.Remote :=
  ⟨"i-1", "", "crn:1", "", "kafka", "", "", "", "p-1", "", "us-south", .active, false, false, none,
    none, none, none, []⟩

/-- An instance that exists is not absent where the catalog does not find its plan. -/
theorem missingPlan_no_absence :
    ∃ log o, Run ((External.ofKind .resourceInstance).observe "t0" plannedInstance) log o ∧
      TellsAbsence plannedInstance log o ∧ ¬ o.ReportsAbsence ∧
      ∃ context, o.result = .error (.lookup context (.notFound "p-1")) := by
  let log : List (Exchange Outside) :=
    [⟨.cloud (.controller (.getInstance "i-1")), .ok activeInstance⟩,
      ⟨.cloud (.catalog (.planName "messagehub" "p-1")), .error (.notFound "p-1")⟩]
  have run : ∃ o, Run ((External.ofKind .resourceInstance).observe "t0" plannedInstance) log o :=
    ⟨_, .ask (I := Outside) (.cloud (.controller (.getInstance "i-1"))) (.ok activeInstance)
      (.ask (I := Outside) (.cloud (.catalog (.planName "messagehub" "p-1")))
        (.error (.notFound "p-1")) (.done _))⟩
  obtain ⟨o, run⟩ := run
  have told := absence_exact run
  obtain ⟨context, hresult⟩ := told.lookup_failed (.planName "messagehub" "p-1") (.notFound "p-1")
    (List.mem_cons_of_mem _ List.mem_cons_self)
  refine ⟨log, o, run, told, ?_, context, hresult⟩
  rintro ⟨observed, hobserved, -⟩
  rw [hresult] at hobserved
  cases hobserved

end ResourceOperator
