import ResourceOperator.Proofs.Dialogue
import ResourceOperator.Reconcile.World

/-!
# How operations keep track of the remote object

All kinds but topics find their remote object under the id that the cloud gave it at its creation.
`External.Tracks` says what the operations of such a kind do about that id: only a creation creates,
its success ends with the answer that carries the id, and the id goes into the metadata; every other
operation leaves the metadata as it is; and an observation finds no remote object only when no id is
known, or when the cloud has just reported the object of the id absent.

Results:
* `Vpc.tracks`, `Subnet.tracks`, `ResourceInstance.tracks`, `ResourceKey.tracks`.
* `External.tracks_ofKind`: all of them, by kind.
-/

namespace ResourceOperator

open Dialogue

namespace Outside

/-- The call creates a remote object that is found under its id. -/
def creates : OutsideCall → Bool
  | .cloud (.network (.createVpc _)) => true
  | .cloud (.network (.createSubnet _)) => true
  | .cloud (.controller (.createInstance _)) => true
  | .cloud (.controller (.createKey _)) => true
  | _ => false

/-- The id that a creation which succeeded has answered. -/
def createdId : Exchange Outside → Option String
  | ⟨.cloud (.network (.createVpc _)), .ok v⟩ => some v.id
  | ⟨.cloud (.network (.createSubnet _)), .ok s⟩ => some s.id
  | ⟨.cloud (.controller (.createInstance _)), .ok i⟩ => some i.id
  | ⟨.cloud (.controller (.createKey _)), .ok key⟩ => some key.id
  | _ => none

/-- The answer to a request for the object with this id: it is not found, or in a state that counts
as absent. -/
def ReportsAbsent (id : String) : Exchange Outside → Prop
  | ⟨.cloud (.network (.getVpc asked)), .error e⟩ => asked = id ∧ e.isNotFound = true
  | ⟨.cloud (.network (.getSubnet asked)), .error e⟩ => asked = id ∧ e.isNotFound = true
  | ⟨.cloud (.controller (.getInstance asked)), .error e⟩ => asked = id ∧ e.isNotFound = true
  | ⟨.cloud (.controller (.getInstance asked)), .ok i⟩ => asked = id ∧ i.state.isPresent = false
  | ⟨.cloud (.controller (.getKey asked)), .error e⟩ => asked = id ∧ e.isNotFound = true
  | ⟨.cloud (.controller (.getKey asked)), .ok key⟩ => asked = id ∧ key.state = .removed
  | _ => False

/-- Nothing has been created. -/
def Barren (log : List (Exchange Outside)) : Prop :=
  ∀ x ∈ log, createdId x = none

theorem barren_nil : Barren [] := fun _ h => nomatch h

theorem createdId_of_not_creates {x : Exchange Outside} (h : creates x.question = false) :
    createdId x = none := by
  unfold createdId
  split
  case h_5 => rfl
  all_goals cases h

theorem Barren.append {log : List (Exchange Outside)} (h : Barren log) {x : Exchange Outside}
    (hx : createdId x = none) : Barren (log ++ [x]) := by
  intro y hy
  rcases List.mem_append.mp hy with hy | hy
  · exact h y hy
  · rw [List.mem_singleton.mp hy]
    exact hx

/-- The dialogue creates nothing, and it ends with a resource that has this metadata. -/
def Quiet {k : Kind} {α : Type} (metadata : Metadata) (d : Dialogue Outside (Outcome k α)) : Prop :=
  ∀ past, d.Ensures (watch fun _ q => creates q = false) (fun _ o => o.resource.metadata = metadata)
    past

section Quiet

variable {k : Kind} {α : Type} {metadata : Metadata}

theorem quiet_pure {o : Outcome k α} (h : o.resource.metadata = metadata) :
    Quiet metadata (pure o) := fun _ => h

theorem quiet_ite {condition : Prop} [Decidable condition] {d e : Dialogue Outside (Outcome k α)}
    (hd : Quiet metadata d) (he : Quiet metadata e) :
    Quiet metadata (if condition then d else e) := by
  split <;> assumption

theorem quiet_cloud {call : Cloud.Call} (hc : creates (.cloud call) = false)
    {f : Except Cloud.Failure call.Result → Dialogue Outside (Outcome k α)}
    (he : ∀ e, Quiet metadata (f (.error e))) (hok : ∀ v, Quiet metadata (f (.ok v))) :
    Quiet metadata (cloud call >>= f) := by
  refine fun _ => ⟨hc, fun answer => ?_⟩
  cases answer with
  | error e => exact he e _
  | ok v => exact hok v _

/-- Without an id there is nothing to ask. -/
theorem quiet_known {name : Option String} {o : Outcome k α}
    {d : String → Dialogue Outside (Outcome k α)} (ho : o.resource.metadata = metadata)
    (hd : ∀ id, Quiet metadata (d id)) :
    Quiet metadata (match name with
      | none => pure o
      | some id => d id) := by
  cases name with
  | none => exact quiet_pure ho
  | some id => exact hd id

/-- What creates nothing may come first. -/
theorem quiet_bind {β : Type} {d : Dialogue Outside β} {f : β → Dialogue Outside (Outcome k α)}
    (hd : ∀ past, d.Ensures (watch fun _ q => creates q = false) anyEnd past)
    (hf : ∀ b, Quiet metadata (f b)) : Quiet metadata (d >>= f) := fun past =>
  (ensures_bind d f).mpr ((hd past).of_anyEnd (monotone_watch _) fun past b => hf b past)

end Quiet

theorem ensures_ofCatalog {α : Type} (d : Dialogue Cloud.Catalog α)
    (past : List (Exchange Outside)) :
    (ofCatalog d).Ensures (watch fun _ q => creates q = false) anyEnd past :=
  (ensures_forward _ d).mpr (ensures_anyEnd (fun _ _ _ h => ⟨rfl, fun _ => h _ _⟩) d past)

theorem ensures_ofLookup {k : Kind} {α : Type} (d : Dialogue (Lookup k) α)
    (past : List (Exchange Outside)) :
    (ofLookup d).Ensures (watch fun _ q => creates q = false) anyEnd past :=
  (ensures_forward _ d).mpr (ensures_anyEnd (fun _ _ _ h => ⟨rfl, fun _ => h _ _⟩) d past)

end Outside

open Outside

variable {k : Kind}

/-- What an observation that left this resource and this log may say of the remote object: it is
absent only when its id is unknown, or when it has been reported absent. -/
def Sighted (r : Managed k) (log : List (Exchange Outside)) (o : Outcome k Observed) : Prop :=
  o.resource.metadata = r.metadata ∧
    ∀ observed, o.result = .ok observed → observed.present = false →
      r.externalName = none ∨ ∃ id, r.externalName = some id ∧ ∃ x ∈ log, ReportsAbsent id x

/-- What a creation may leave: its success ends with the answer that carries the id, which goes into
the metadata; its failure has created nothing. -/
def Registered (r : Managed k) (log : List (Exchange Outside)) (o : Outcome k Created) : Prop :=
  match o.result with
  | .ok _ => ∃ before x id, log = before ++ [x] ∧ Barren before ∧ createdId x = some id ∧
      o.resource.metadata = r.metadata.setExternalName id
  | .error _ => Barren log ∧ o.resource.metadata = r.metadata

/-- Operations that find the remote object under the id of its creation. -/
structure External.Tracks (e : External k) : Prop where
  resolveReferences : ∀ r, Quiet r.metadata (e.resolveReferences r)
  observe : ∀ now r,
    (e.observe now r).Ensures (watch fun _ q => creates q = false) (Sighted r) []
  create : ∀ now r, (e.create now r).Ensures (watch fun log _ => Barren log) (Registered r) []
  update : ∀ r, Quiet r.metadata (e.update r)
  delete : ∀ now r, Quiet r.metadata (e.delete now r)

theorem quiet_resolveNothing (r : Managed k) :
    Quiet r.metadata (External.resolveNothing r) := quiet_pure rfl

theorem sighted_pure {r : Managed k} {log : List (Exchange Outside)} {o : Outcome k Observed}
    (hm : o.resource.metadata = r.metadata)
    (h : ∀ observed, o.result = .ok observed → observed.present = true) : Sighted r log o :=
  ⟨hm, fun observed e ha => by simp [h observed e] at ha⟩

theorem sighted_absent {r : Managed k} {id : String} (h : r.externalName = some id)
    {log : List (Exchange Outside)} (hx : ∃ x ∈ log, ReportsAbsent id x) :
    Sighted r log (.ok .absent r) :=
  ⟨rfl, fun _ _ _ => .inr ⟨id, h, hx⟩⟩

/-- Without an id, no remote object is found. -/
theorem sighted_known {r : Managed k} {d : String → Dialogue Outside (Outcome k Observed)}
    (hd : ∀ id, r.externalName = some id →
      (d id).Ensures (watch fun _ q => creates q = false) (Sighted r) []) :
    (match r.externalName with
      | none => pure (.ok .absent r)
      | some id => d id : Dialogue Outside (Outcome k Observed)).Ensures
        (watch fun _ q => creates q = false) (Sighted r) [] := by
  cases hn : r.externalName with
  | none => exact ⟨rfl, fun _ _ _ => .inl hn⟩
  | some id => exact hd id hn

/-- A request for the remote object, where a failure may say that it is absent. -/
theorem sighted_cloud {r : Managed k} {id : String} (h : r.externalName = some id)
    {call : Cloud.Call} (hc : creates (.cloud call) = false)
    (hr : ∀ e : Cloud.Failure, e.isNotFound = true → ReportsAbsent id ⟨.cloud call, .error e⟩)
    {f : Except Cloud.Failure call.Result → Dialogue Outside (Outcome k Observed)}
    {context : String}
    (he : ∀ e, f (.error e) =
      if e.isNotFound then pure (.ok .absent r) else pure (.fail (.cloud context e) r))
    (hok : ∀ v log, (f (.ok v)).Ensures (watch fun _ q => creates q = false) (Sighted r) log) :
    (cloud call >>= f).Ensures (watch fun _ q => creates q = false) (Sighted r) [] := by
  refine ⟨hc, fun answer => ?_⟩
  cases answer with
  | ok v => exact hok v _
  | error e =>
    show (f (.error e)).Ensures _ _ _
    rw [he]
    cases hf : e.isNotFound with
    | true => exact sighted_absent h ⟨_, List.mem_singleton_self _, hr e hf⟩
    | false => exact sighted_pure rfl fun _ => nofun

/-- A creation that ends with one call, after what created nothing. -/
theorem registered_cloud {r : Managed k} {past : List (Exchange Outside)} (hb : Barren past)
    {call : Cloud.Call}
    {f : Except Cloud.Failure call.Result → Dialogue Outside (Outcome k Created)}
    (he : ∀ e, createdId ⟨.cloud call, .error e⟩ = none ∧
      ∃ failure, f (.error e) = pure (.fail failure r))
    (hok : ∀ v, ∃ id created left, createdId ⟨.cloud call, .ok v⟩ = some id ∧
      f (.ok v) = pure (.ok created left) ∧ left.metadata = r.metadata.setExternalName id) :
    (cloud call >>= f).Ensures (watch fun log _ => Barren log) (Registered r) past := by
  refine ⟨hb, fun answer => ?_⟩
  cases answer with
  | ok v =>
    obtain ⟨id, created, left, hid, hf, hm⟩ := hok v
    show (f (.ok v)).Ensures _ _ _
    rw [hf]
    exact ⟨past, _, id, rfl, hb, hid, hm⟩
  | error e =>
    obtain ⟨hn, failure, hf⟩ := he e
    show (f (.error e)).Ensures _ _ _
    rw [hf]
    exact ⟨hb.append hn, rfl⟩

/-! ## Remote objects that may be there and count as absent -/

/-- A request for the remote object of an id: none is found only where the cloud reports so. -/
def Fetches {ρ : Type} (fetch : String → Dialogue Outside (Except EngineError (Option ρ))) : Prop :=
  ∀ id past, (fetch id).Ensures (watch fun _ q => creates q = false)
    (fun log found => found = .ok none → ∃ x ∈ log, ReportsAbsent id x) past

section Fetches

variable {ρ : Type} {fetch : String → Dialogue Outside (Except EngineError (Option ρ))}

/-- A fetch is one request, where the object that is answered may count as absent. -/
theorem fetch_cloud {id : String} {call : Cloud.Call} (hc : creates (.cloud call) = false)
    (hr : ∀ e : Cloud.Failure, e.isNotFound = true → ReportsAbsent id ⟨.cloud call, .error e⟩)
    {f : Except Cloud.Failure call.Result → Dialogue Outside (Except EngineError (Option ρ))}
    {context : String}
    (he : ∀ e, f (.error e) =
      if e.isNotFound then pure (.ok none) else pure (.error (.cloud context e)))
    (hok : ∀ v, ∃ found, f (.ok v) = pure (.ok found) ∧
      (found = none → ReportsAbsent id ⟨.cloud call, .ok v⟩))
    (past : List (Exchange Outside)) :
    (cloud call >>= f).Ensures (watch fun _ q => creates q = false)
      (fun log found => found = .ok none → ∃ x ∈ log, ReportsAbsent id x) past := by
  refine ⟨hc, fun answer => ?_⟩
  cases answer with
  | ok v =>
    obtain ⟨found, hf, habsent⟩ := hok v
    show (f (.ok v)).Ensures _ _ _
    rw [hf]
    intro e
    exact ⟨_, List.mem_append_right past (List.mem_singleton_self _), habsent (Except.ok.inj e)⟩
  | error e =>
    show (f (.error e)).Ensures _ _ _
    rw [he]
    cases hf : e.isNotFound with
    | true => exact fun _ => ⟨_, List.mem_append_right past (List.mem_singleton_self _), hr e hf⟩
    | false => exact fun h => nomatch h

theorem Fetches.sighted (hf : Fetches fetch) {r : Managed k} {id : String}
    (h : r.externalName = some id)
    {f : Except EngineError (Option ρ) → Dialogue Outside (Outcome k Observed)}
    (he : ∀ e, f (.error e) = pure (.fail e r)) (hnone : f (.ok none) = pure (.ok .absent r))
    (hsome : ∀ remote log,
      (f (.ok (some remote))).Ensures (watch fun _ q => creates q = false) (Sighted r) log) :
    (fetch id >>= f).Ensures (watch fun _ q => creates q = false) (Sighted r) [] := by
  refine (ensures_bind _ _).mpr ((hf id []).mono (monotone_watch _) ?_)
  rintro log (e | _ | remote) hfound
  · rw [he]
    exact sighted_pure rfl fun _ => nofun
  · rw [hnone]
    exact sighted_absent h (hfound rfl)
  · exact hsome remote log

theorem Fetches.anyEnd (hf : Fetches fetch) (id : String) (past : List (Exchange Outside)) :
    (fetch id).Ensures (watch fun _ q => creates q = false) anyEnd past :=
  (hf id past).mono (monotone_watch _) fun _ _ _ => trivial

end Fetches

/-! ## Networks -/

theorem Vpc.tracks : Vpc.external.Tracks where
  resolveReferences := quiet_resolveNothing
  observe now r := by
    refine sighted_known fun id hn => ?_
    refine sighted_cloud hn rfl (fun e he => ?_) (fun _ => rfl) fun v _ => ?_
    · exact ⟨rfl, he⟩
    · exact sighted_pure rfl fun _ e => by cases e; rfl
  create now r := by
    show (Vpc.create now r).Ensures _ _ _
    unfold Vpc.create
    exact registered_cloud barren_nil (fun _ => ⟨rfl, _, rfl⟩) fun v => ⟨v.id, _, _, rfl, rfl, rfl⟩
  update r := by
    refine quiet_known rfl fun id => quiet_cloud rfl (fun _ => quiet_pure rfl) fun v => ?_
    refine quiet_ite (quiet_pure rfl) (quiet_cloud rfl (fun _ => ?_) fun _ => ?_) <;>
      exact quiet_pure rfl
  delete now r := by
    refine quiet_known rfl fun id => quiet_cloud rfl (fun _ => ?_) fun _ => quiet_pure rfl
    exact quiet_ite (quiet_pure rfl) (quiet_pure rfl)

/-! ## Subnets -/

theorem Subnet.tracks : Subnet.external.Tracks where
  resolveReferences r := by
    refine quiet_bind (ensures_ofLookup _) fun found => ?_
    cases found with
    | error e => exact quiet_pure rfl
    | ok found => exact quiet_ite (quiet_pure rfl) (quiet_pure rfl)
  observe now r := by
    refine sighted_known fun id hn => ?_
    refine sighted_cloud hn rfl (fun e he => ?_) (fun _ => rfl) fun s _ => ?_
    · exact ⟨rfl, he⟩
    · exact sighted_pure rfl fun _ e => by cases e; rfl
  create now r := by
    show (Subnet.create now r).Ensures _ _ _
    unfold Subnet.create
    cases Subnet.Parameters.request r.spec.forProvider with
    | error e => exact ⟨barren_nil, rfl⟩
    | ok request =>
      exact registered_cloud barren_nil (fun _ => ⟨rfl, _, rfl⟩)
        fun s => ⟨s.id, _, _, rfl, rfl, rfl⟩
  update r := by
    refine quiet_known rfl fun id => quiet_cloud rfl (fun _ => quiet_pure rfl) fun s => ?_
    refine quiet_ite (quiet_pure rfl) (quiet_cloud rfl (fun _ => ?_) fun _ => ?_) <;>
      exact quiet_pure rfl
  delete now r := by
    refine quiet_known rfl fun id => quiet_cloud rfl (fun _ => ?_) fun _ => quiet_pure rfl
    exact quiet_ite (quiet_pure rfl) (quiet_pure rfl)

/-! ## Resource keys -/

namespace ResourceKey

theorem fetches : Fetches fetch := by
  intro id past
  unfold fetch
  refine fetch_cloud rfl (fun e he => ?_) (fun _ => rfl) (fun v => ⟨_, rfl, fun hv => ?_⟩) past
  · exact ⟨rfl, he⟩
  · split at hv
    · next hs => exact ⟨rfl, hs⟩
    · cases hv

theorem tracks : external.Tracks where
  resolveReferences r := by
    refine quiet_bind (ensures_ofLookup _) fun found => ?_
    cases found with
    | error e => exact quiet_pure rfl
    | ok found => exact quiet_ite (quiet_pure rfl) (quiet_pure rfl)
  observe now r := by
    refine sighted_known fun id hn => fetches.sighted hn (fun _ => rfl) rfl fun remote _ => ?_
    exact sighted_pure rfl fun _ e => by cases e; rfl
  create now r := by
    show (create now r).Ensures _ _ _
    unfold create
    cases Parameters.request r.spec.forProvider with
    | error e => exact ⟨barren_nil, rfl⟩
    | ok request =>
      exact registered_cloud barren_nil (fun _ => ⟨rfl, _, rfl⟩)
        fun v => ⟨v.id, _, _, rfl, rfl, rfl⟩
  update r := by
    refine quiet_known rfl fun id => quiet_bind (fetches.anyEnd id) fun found => ?_
    rcases found with e | _ | remote
    · exact quiet_pure rfl
    · exact quiet_pure rfl
    · refine quiet_ite (quiet_pure rfl) (quiet_cloud rfl (fun _ => ?_) fun _ => ?_) <;>
        exact quiet_pure rfl
  delete now r := by
    refine quiet_known rfl fun id => quiet_cloud rfl (fun _ => ?_) fun _ => quiet_pure rfl
    exact quiet_ite (quiet_pure rfl) (quiet_pure rfl)

end ResourceKey

/-! ## Service instances -/

namespace ResourceInstance

theorem fetches : Fetches fetch := by
  intro id past
  unfold fetch
  refine fetch_cloud rfl (fun e he => ?_) (fun _ => rfl) (fun v => ⟨_, rfl, fun hv => ?_⟩) past
  · exact ⟨rfl, he⟩
  · cases hp : v.state.isPresent with
    | true => simp [hp] at hv
    | false => exact ⟨rfl, hp⟩

theorem ensures_callUnless (skip : Bool) (context : String) {call : Cloud.Call}
    (hc : creates (.cloud call) = false) (past : List (Exchange Outside)) :
    (callUnless skip context call).Ensures (watch fun _ q => creates q = false) anyEnd past := by
  cases skip with
  | true => trivial
  | false =>
    refine ⟨hc, fun answer => ?_⟩
    cases answer <;> trivial

theorem ensures_send (id crn : String) (patch : Cloud.Patch) (tags : List String × List String)
    (past : List (Exchange Outside)) :
    (send id crn patch tags).Ensures (watch fun _ q => creates q = false) anyEnd past := by
  have hm := monotone_watch (I := Outside) fun _ q => creates q = false
  refine (ensures_bind _ _).mpr ((ensures_callUnless _ _ rfl past).of_anyEnd hm ?_)
  rintro past (e | ⟨⟩)
  · trivial
  · refine (ensures_bind _ _).mpr ((ensures_callUnless _ _ rfl past).of_anyEnd hm ?_)
    rintro past (e | ⟨⟩)
    · trivial
    · exact ensures_callUnless _ _ rfl past

theorem tracks : external.Tracks where
  resolveReferences := quiet_resolveNothing
  observe now r := by
    refine sighted_known fun id hn => fetches.sighted hn (fun _ => rfl) rfl fun remote log => ?_
    refine (ensures_bind _ _).mpr ((ensures_ofCatalog _ log).of_anyEnd (monotone_watch _) ?_)
    rintro log ⟨e | changed, filled⟩
    · exact sighted_pure rfl fun _ => nofun
    refine (ensures_bind _ _).mpr ((ensures_ofCatalog _ log).of_anyEnd (monotone_watch _) ?_)
    rintro log (e | upToDate)
    · exact sighted_pure rfl fun _ => nofun
    · exact sighted_pure rfl fun _ e => by cases e; rfl
  create now r := by
    show (create now r).Ensures _ _ _
    unfold create
    dsimp only
    split
    · exact ⟨barren_nil, rfl⟩
    · refine ⟨barren_nil, fun group => ?_⟩
      have h₁ : Barren ([] ++ [⟨_, group⟩]) := barren_nil.append rfl
      cases group with
      | error e => exact ⟨h₁, rfl⟩
      | ok group =>
        refine ⟨h₁, fun plan => ?_⟩
        have h₂ := h₁.append (x := ⟨_, plan⟩) rfl
        cases plan with
        | error e => exact ⟨h₂, rfl⟩
        | ok plan =>
          exact registered_cloud h₂ (fun _ => ⟨rfl, _, rfl⟩) fun v => ⟨v.id, _, _, rfl, rfl, rfl⟩
  update r := by
    refine quiet_known rfl fun id => quiet_bind (fetches.anyEnd id) fun found => ?_
    rcases found with e | _ | remote
    · exact quiet_pure rfl
    · exact quiet_pure rfl
    · refine quiet_bind (ensures_ofCatalog _) fun patch => ?_
      cases patch with
      | error e => exact quiet_pure rfl
      | ok patch => exact quiet_bind (ensures_send _ _ _ _) fun _ => quiet_pure rfl
  delete now r := by
    refine quiet_known rfl fun id => quiet_cloud rfl (fun _ => ?_) fun _ => quiet_pure rfl
    exact quiet_ite (quiet_pure rfl) (quiet_pure rfl)

end ResourceInstance

/-- Every kind but topics keeps track of its remote object by id. -/
theorem External.tracks_ofKind {k : Kind} (hk : k ≠ .topic) : (External.ofKind k).Tracks := by
  cases k with
  | vpc => exact Vpc.tracks
  | subnet => exact Subnet.tracks
  | resourceInstance => exact ResourceInstance.tracks
  | resourceKey => exact ResourceKey.tracks
  | topic => exact absurd rfl hk

end ResourceOperator
