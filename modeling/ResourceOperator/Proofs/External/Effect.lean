import ResourceOperator.Proofs.Dialogue
import ResourceOperator.Proofs.Filled
import ResourceOperator.Reconcile.World

/-!
# What operations make of a resource

An operation works on a declared resource and ends with one, also when it fails. `Continues` is what
all of them have in common: of the spec, nothing but the desired state is touched, that stays one
that can be read, and the numbers in the status stay in the range of those that are read. An
observation and a creation keep more: a document that the desired state fits before, it still fits
after, and the metadata get an external name at most. That is `Carries`.

Both rest on what the cloud answers with being read from a document (`Received`), as every answer of
a client is (`Outside.received_of_run`).

Results:
* `Vpc.effect`, `Subnet.effect`, `ResourceInstance.effect`, `ResourceKey.effect`, `Topic.effect`.
* `External.effect_ofKind`: all of them, by kind.
-/

namespace ResourceOperator

open Dialogue Json

variable {k : Kind}

/-! ## Resources before and after -/

namespace Managed

/-- The resource that an operation starts from and one that it may leave. -/
structure Continues (r left : Managed k) : Prop where
  spec : ∃ q, left.spec = { r.spec with forProvider := q } ∧
    (Parameters.Fits k .null r.spec.forProvider → Parameters.Fits k .null q)
  inRange : r.InRange → left.InRange

/-- The same of an observation or a creation. -/
structure Carries (r left : Managed k) : Prop where
  metadata : left.metadata = r.metadata ∨ ∃ id, left.metadata = r.metadata.setExternalName id
  spec : ∃ q, left.spec = { r.spec with forProvider := q } ∧
    ∀ v, Parameters.Fits k v r.spec.forProvider → Parameters.Fits k v q
  inRange : r.InRange → left.InRange

variable {r middle left : Managed k}

theorem InRange.setCondition (h : r.InRange) (c : Condition) : (r.setCondition c).InRange := by
  intro s o hs ho
  cases hs
  cases hr : r.status with
  | none =>
    rw [hr] at ho
    cases ho
  | some s =>
    rw [hr] at ho
    exact h s o hr ho

theorem InRange.setObservation {o : Observation k} (h : Observation.InRange k o)
    (r : Managed k) : (r.setObservation o).InRange := by
  intro s o' hs ho
  cases hs
  cases ho
  exact h

theorem Continues.refl (r : Managed k) : Continues r r := ⟨⟨_, rfl, id⟩, id⟩

theorem Continues.trans (h : Continues r middle) (h' : Continues middle left) :
    Continues r left := by
  obtain ⟨q, hq, hfits⟩ := h.spec
  obtain ⟨q', hq', hfits'⟩ := h'.spec
  rw [hq] at hq' hfits'
  exact ⟨⟨q', hq', hfits' ∘ hfits⟩, h'.inRange ∘ h.inRange⟩

theorem Continues.setCondition (h : Continues r left) (c : Condition) :
    Continues r (left.setCondition c) :=
  ⟨h.spec, fun hr => (h.inRange hr).setCondition c⟩

theorem Continues.setParameters (r : Managed k) (q : Parameters k)
    (h : Parameters.Fits k .null r.spec.forProvider → Parameters.Fits k .null q) :
    Continues r (r.setParameters q) :=
  ⟨⟨q, rfl, h⟩, id⟩

theorem Carries.refl (r : Managed k) : Carries r r := ⟨.inl rfl, ⟨_, rfl, fun _ => id⟩, id⟩

theorem Carries.continues (h : Carries r left) : Continues r left :=
  ⟨h.spec.imp fun _ => And.imp_right fun hfits => hfits .null, h.inRange⟩

theorem Carries.setParameters (r : Managed k) (q : Parameters k)
    (h : ∀ v, Parameters.Fits k v r.spec.forProvider → Parameters.Fits k v q) :
    Carries r (r.setParameters q) :=
  ⟨.inl rfl, ⟨q, rfl, h⟩, id⟩

/-- What an observation of a remote object leaves. -/
theorem Carries.observed (r : Managed k) (q : Parameters k) {o : Observation k}
    (h : ∀ v, Parameters.Fits k v r.spec.forProvider → Parameters.Fits k v q)
    (ho : Observation.InRange k o) (c : Condition) :
    Carries r (((r.setParameters q).setObservation o).setCondition c) :=
  ⟨.inl rfl, ⟨q, rfl, h⟩, fun _ => (InRange.setObservation ho _).setCondition c⟩

/-- What a creation leaves. -/
theorem Carries.created (r : Managed k) (id : String) (c : Condition) :
    Carries r ((r.setExternalName id).setCondition c) :=
  ⟨.inr ⟨id, rfl⟩, ⟨_, rfl, fun _ h => h⟩, fun h => InRange.setCondition h c⟩

end Managed

open Managed

/-! ## Dialogues that keep a property -/

namespace Outside

/-- What the cloud answers with was read from a document. -/
def Received : Exchange Outside → Prop
  | ⟨.cloud c, .ok v⟩ => Readable c.decodeResult v
  | _ => True

/-- The rule that any question may be asked, and that answers are received. -/
abbrev receiving : Rule Outside Unit :=
  asking (fun _ => True) Received

/-- Whatever is received, the operation leaves a resource with the property. -/
def Keeps {α : Type} (p : Managed k → Prop) (d : Dialogue Outside (Outcome k α)) : Prop :=
  d.Ensures receiving (fun _ o => p o.resource) ()

variable {α β : Type} {p : Managed k → Prop}

theorem keeps_pure {o : Outcome k α} (h : p o.resource) : Keeps p (pure o) := h

theorem keeps_ite {condition : Prop} [Decidable condition] {d e : Dialogue Outside (Outcome k α)}
    (hd : Keeps p d) (he : Keeps p e) : Keeps p (if condition then d else e) := by
  split <;> assumption

theorem keeps_cloud {call : Cloud.Call}
    {f : Except Cloud.Failure call.Result → Dialogue Outside (Outcome k α)}
    (he : ∀ e, Keeps p (f (.error e)))
    (hok : ∀ v, Readable call.decodeResult v → Keeps p (f (.ok v))) :
    Keeps p (cloud call >>= f) := by
  refine ⟨trivial, fun answer h => ?_⟩
  cases answer with
  | error e => exact he e
  | ok v => exact hok v h

/-- Without an id there is nothing to ask. -/
theorem keeps_known {name : Option String} {o : Outcome k α}
    {d : String → Dialogue Outside (Outcome k α)} (ho : p o.resource) (hd : ∀ id, Keeps p (d id)) :
    Keeps p (match name with
      | none => pure o
      | some id => d id) := by
  cases name with
  | none => exact ho
  | some id => exact hd id

/-- What comes first may be relied on. -/
theorem keeps_bind {d : Dialogue Outside β} {f : β → Dialogue Outside (Outcome k α)}
    {first : β → Prop} (hd : d.Ensures receiving (fun _ b => first b) ())
    (hf : ∀ b, first b → Keeps p (f b)) : Keeps p (d >>= f) :=
  (ensures_bind d f).mpr (hd.mono (monotone_asking _ _) fun _ b hb => hf b hb)

theorem receiving_anyEnd (d : Dialogue Outside β) : d.Ensures receiving anyEnd () :=
  ensures_anyEnd (fun _ _ _ h => ⟨trivial, fun answer _ => h () answer⟩) d ()

/-- The same where nothing is relied on. -/
theorem keeps_bind_any {d : Dialogue Outside β} {f : β → Dialogue Outside (Outcome k α)}
    (hf : ∀ b, Keeps p (f b)) : Keeps p (d >>= f) :=
  keeps_bind (receiving_anyEnd d) fun b _ => hf b

/-- What a dialogue with the catalog ensures for any answers, it ensures of what is received. -/
theorem receiving_ofCatalog {post : β → Prop} {d : Dialogue Cloud.Catalog β}
    (h : d.Ensures (asking (fun _ => True) fun _ => True) (fun _ b => post b) ()) :
    (ofCatalog d).Ensures receiving (fun _ b => post b) () := by
  induction d with
  | done b => exact h
  | ask q next ih => exact ⟨trivial, fun answer _ => ih answer (h.2 answer trivial)⟩

end Outside

open Outside

/-! ## References resolved -/

theorem Reference.fits_null (r : Option Reference) : OptionalFits Reference.decode .null r :=
  optionally_null (fun r => (Reference.readable r).fits_null) r

theorem Json.text_fits_null (s : Option String) : OptionalFits text .null s :=
  optionally_null (fun s => (readable_text s).fits_null) s

theorem Identity.fits_null (i : Option Identity) : Optionally Identity.Fits .null i :=
  optionally_null (fun _ => .inl rfl) i

theorem Subnet.Parameters.Fits.applyResolution {p : Parameters} (h : p.Fits .null)
    (found : Resolution) : Parameters.Fits .null (applyResolution p found).value :=
  { h with
    common := { h.common with vpc := Identity.fits_null _, vpcRef := Reference.fits_null _ } }

theorem ResourceKey.Parameters.Fits.applyResolution {p : Parameters} (h : p.Fits [])
    (found : Resolution) : Parameters.Fits [] (applyResolution p found).value :=
  { h with source := Json.text_fits_null _, sourceRef := Reference.fits_null _ }

theorem Topic.Parameters.Fits.applyResolution {p : Parameters} (h : p.Fits [])
    (found : Resolution) : Parameters.Fits [] (applyResolution p found).value :=
  { h with kafkaAdminUrl := Json.text_fits_null _, kafkaAdminUrlRef := Reference.fits_null _ }

/-- What the operations on a kind make of a resource. -/
structure External.Effect (e : External k) : Prop where
  resolveReferences : ∀ r, Keeps (Continues r) (e.resolveReferences r)
  observe : ∀ now r, Keeps (Carries r) (e.observe now r)
  create : ∀ now r, Keeps (Carries r) (e.create now r)
  update : ∀ r, Keeps (Continues r) (e.update r)
  delete : ∀ now r, Keeps (Continues r) (e.delete now r)

theorem keeps_resolveNothing (r : Managed k) : Keeps (Continues r) (External.resolveNothing r) :=
  keeps_pure (.refl r)

/-! ## Networks -/

theorem Vpc.effect : Vpc.external.Effect where
  resolveReferences := keeps_resolveNothing
  observe now r := by
    refine keeps_known (.refl r) fun id => keeps_cloud (fun e => ?_) fun v _ => ?_
    · exact keeps_ite (keeps_pure (.refl r)) (keeps_pure (.refl r))
    · have filled (w : Json) (h : Parameters.Fits w.mergeable r.spec.forProvider) :=
        h.lateInitialize v
      exact keeps_pure (.observed r _ filled trivial _)
  create now r :=
    keeps_cloud (fun _ => keeps_pure (.refl r)) fun v _ => keeps_pure (.created r v.id _)
  update r := by
    refine keeps_known (.refl r) fun id => keeps_cloud (fun _ => keeps_pure (.refl r)) fun v _ => ?_
    refine keeps_ite (keeps_pure (.refl r)) (keeps_cloud (fun _ => ?_) fun _ _ => ?_) <;>
      exact keeps_pure (.refl r)
  delete now r := by
    have noted := (Continues.refl r).setCondition (.deleting now)
    refine keeps_known noted fun id => keeps_cloud (fun _ => ?_) fun _ _ => keeps_pure noted
    exact keeps_ite (keeps_pure noted) (keeps_pure noted)

/-! ## Subnets -/

theorem Subnet.effect : Subnet.external.Effect where
  resolveReferences r := by
    refine keeps_bind_any fun found => ?_
    cases found with
    | error e => exact keeps_pure (.refl r)
    | ok found =>
      have resolved (h : Parameters.Fits null r.spec.forProvider) := h.applyResolution found
      exact keeps_ite (keeps_pure (.refl r)) (keeps_pure (.setParameters r _ resolved))
  observe now r := by
    refine keeps_known (.refl r) fun id => keeps_cloud (fun e => ?_) fun s hs => ?_
    · exact keeps_ite (keeps_pure (.refl r)) (keeps_pure (.refl r))
    · have hrange := Remote.inRange hs
      have filled (w : Json) (h : Parameters.Fits w r.spec.forProvider) := h.lateInitialize hrange
      exact keeps_pure (.observed r _ filled hrange _)
  create now r := by
    show Keeps _ (Subnet.create now r)
    unfold Subnet.create
    cases Subnet.Parameters.request r.spec.forProvider with
    | error e => exact keeps_pure (.refl r)
    | ok request =>
      exact keeps_cloud (fun _ => keeps_pure (.refl r)) fun s _ => keeps_pure (.created r s.id _)
  update r := by
    refine keeps_known (.refl r) fun id => keeps_cloud (fun _ => keeps_pure (.refl r)) fun s _ => ?_
    refine keeps_ite (keeps_pure (.refl r)) (keeps_cloud (fun _ => ?_) fun _ _ => ?_) <;>
      exact keeps_pure (.refl r)
  delete now r := by
    have noted := (Continues.refl r).setCondition (.deleting now)
    refine keeps_known noted fun id => keeps_cloud (fun _ => ?_) fun _ _ => keeps_pure noted
    exact keeps_ite (keeps_pure noted) (keeps_pure noted)

/-! ## Resource keys -/

theorem ResourceKey.effect : ResourceKey.external.Effect where
  resolveReferences r := by
    refine keeps_bind_any fun found => ?_
    cases found with
    | error e => exact keeps_pure (.refl r)
    | ok found =>
      have resolved (h : Parameters.Fits [] r.spec.forProvider) := h.applyResolution found
      exact keeps_ite (keeps_pure (.refl r)) (keeps_pure (.setParameters r _ resolved))
  observe now r := by
    refine keeps_known (.refl r) fun id => keeps_bind_any fun found => ?_
    rcases found with e | _ | remote
    · exact keeps_pure (.refl r)
    · exact keeps_pure (.refl r)
    · have filled (w : Json) (h : Parameters.Fits w.mergeable r.spec.forProvider) :=
        h.lateInitialize remote
      exact keeps_pure (.observed r _ filled trivial _)
  create now r := by
    show Keeps _ (ResourceKey.create now r)
    unfold ResourceKey.create
    cases ResourceKey.Parameters.request r.spec.forProvider with
    | error e => exact keeps_pure (.refl r)
    | ok request =>
      exact keeps_cloud (fun _ => keeps_pure (.refl r)) fun v _ => keeps_pure (.created r v.id _)
  update r := by
    refine keeps_known (.refl r) fun id => keeps_bind_any fun found => ?_
    rcases found with e | _ | remote
    · exact keeps_pure (.refl r)
    · exact keeps_pure (.refl r)
    · refine keeps_ite (keeps_pure (.refl r)) (keeps_cloud (fun _ => ?_) fun _ _ => ?_) <;>
        exact keeps_pure (.refl r)
  delete now r := by
    have noted := (Continues.refl r).setCondition (.deleting now)
    refine keeps_known noted fun id => keeps_cloud (fun _ => ?_) fun _ _ => keeps_pure noted
    exact keeps_ite (keeps_pure noted) (keeps_pure noted)

/-! ## Service instances -/

namespace ResourceInstance

/-- A fetched instance was received. -/
theorem receiving_fetch (id : String) :
    (fetch id).Ensures receiving
      (fun _ found => ∀ remote, found = .ok (some remote) → Readable Remote.decode remote) () := by
  refine ⟨trivial, fun answer h => ?_⟩
  cases answer with
  | error e =>
    show (if e.isNotFound then _ else _ : Dialogue Outside _).Ensures _ _ _
    split <;> exact fun _ => nofun
  | ok v =>
    intro remote e
    cases hp : v.state.isPresent with
    | true =>
      rw [hp] at e
      cases e
      exact h
    | false =>
      rw [hp] at e
      cases e

/-- A lookup that is made only under a condition may come to anything. -/
theorem ensures_looked {α β : Type} {condition : Prop} [Decidable condition]
    {d e : Dialogue Cloud.Catalog α} {f : α → Dialogue Cloud.Catalog β} {post : β → Prop}
    (h : ∀ a, (f a).Ensures (asking (fun _ => True) fun _ => True) (fun _ b => post b) ()) :
    (if condition then d >>= f else e >>= f).Ensures (asking (fun _ => True) fun _ => True)
      (fun _ b => post b) () := by
  have after (d : Dialogue Cloud.Catalog α) :
      (d >>= f).Ensures (asking (fun _ => True) fun _ => True) (fun _ b => post b) () := by
    have hd : d.Ensures (asking (fun _ => True) fun _ => True) anyEnd () :=
      ensures_anyEnd (fun _ _ _ h => ⟨trivial, fun answer _ => h () answer⟩) d ()
    exact (ensures_bind d f).mpr (hd.of_anyEnd (monotone_asking _ _) fun _ a => h a)
  split <;> exact after _

/-- Unset fields are filled step by step, and after each step the desired state still fits. -/
theorem fits_lateInitialize {p : Parameters} {r : Remote}
    (hr : ∀ v, r.parameters = some v → Readable (Reader.given any) v) :
    (p.lateInitialize r).Ensures (asking (fun _ => True) fun _ => True)
      (fun _ out => ∀ target, p.Fits target → out.2.Fits target) () := by
  have target_filled {target} (h : p.Fits target) :
      Parameters.Fits target { p with target := (Filled.ofRequired p.target r.regionId).value } :=
    { h with target := Filled.ofRequired_fits h.target _ }
  have group_filled {target} {q : Parameters} (name : String) (h : q.Fits target) :
      Parameters.Fits target
        { q with resourceGroupName := (Filled.ofRequired q.resourceGroupName name).value } :=
    { h with resourceGroupName := Filled.ofRequired_fits h.resourceGroupName name }
  have plan_filled {target} {q : Parameters} (name : String) (h : q.Fits target) :
      Parameters.Fits target
        { q with resourcePlanName := (Filled.ofRequired q.resourcePlanName name).value } :=
    { h with resourcePlanName := Filled.ofRequired_fits h.resourcePlanName name }
  unfold Parameters.lateInitialize
  refine ensures_looked fun group => ?_
  cases group with
  | error e => exact fun target h => target_filled h
  | ok group =>
    refine ensures_looked fun plan => ?_
    cases plan with
    | error e => exact fun target h => group_filled group (target_filled h)
    | ok plan =>
      exact fun target h =>
        (plan_filled plan (group_filled group (target_filled h))).fillReported hr

theorem effect : external.Effect where
  resolveReferences := keeps_resolveNothing
  observe now r := by
    refine keeps_known (.refl r) fun id => keeps_bind (receiving_fetch id) fun found hfound => ?_
    rcases found with e | _ | remote
    · exact keeps_pure (.refl r)
    · exact keeps_pure (.refl r)
    · have hr := Remote.readable_parameters (hfound remote rfl)
      refine keeps_bind (receiving_ofCatalog (fits_lateInitialize hr)) fun out hfilled => ?_
      obtain ⟨late, filled⟩ := out
      have fits (w : Json) (h : Parameters.Fits w.mergeable r.spec.forProvider) :=
        hfilled w.mergeable h
      cases late with
      | error e => exact keeps_pure (.setParameters r filled fits)
      | ok changed =>
        refine keeps_bind_any fun upToDate => ?_
        cases upToDate with
        | error e => exact keeps_pure (.setParameters r filled fits)
        | ok upToDate => exact keeps_pure (.observed r filled fits trivial _)
  create now r := by
    refine keeps_ite (keeps_pure (.refl r)) (keeps_cloud (fun _ => keeps_pure (.refl r)) ?_)
    intro group _
    refine keeps_cloud (fun _ => keeps_pure (.refl r)) fun plan _ => ?_
    exact keeps_cloud (fun _ => keeps_pure (.refl r)) fun v _ => keeps_pure (.created r v.id _)
  update r := by
    refine keeps_known (.refl r) fun id => keeps_bind_any fun found => ?_
    rcases found with e | _ | remote
    · exact keeps_pure (.refl r)
    · exact keeps_pure (.refl r)
    · refine keeps_bind_any fun patch => ?_
      cases patch with
      | error e => exact keeps_pure (.refl r)
      | ok patch => exact keeps_bind_any fun _ => keeps_pure (.refl r)
  delete now r := by
    have noted := (Continues.refl r).setCondition (.deleting now)
    refine keeps_known noted fun id => keeps_cloud (fun _ => ?_) fun _ _ => keeps_pure noted
    exact keeps_ite (keeps_pure noted) (keeps_pure noted)

end ResourceInstance

/-! ## Topics -/

/-- An admin URL that is missing ends an operation on a topic before anything is asked. -/
theorem Topic.keeps_addressed {α : Type} {p : Managed .topic → Prop}
    {url : Except EngineError String} {missing : EngineError → Outcome .topic α}
    {d : String → Dialogue Outside (Outcome .topic α)} (hm : ∀ e, p (missing e).resource)
    (hd : ∀ url, Keeps p (d url)) :
    Keeps p (match url with
      | .error e => pure (missing e)
      | .ok url => d url) := by
  cases url with
  | error e => exact hm e
  | ok url => exact hd url

theorem Topic.effect : Topic.external.Effect where
  resolveReferences r := by
    refine keeps_bind_any fun found => ?_
    cases found with
    | error e => exact keeps_pure (.refl r)
    | ok found =>
      have resolved (h : Parameters.Fits [] r.spec.forProvider) := h.applyResolution found
      exact keeps_ite (keeps_pure (.refl r)) (keeps_pure (.setParameters r _ resolved))
  observe now r := by
    refine keeps_addressed (fun e => ?_) fun url => keeps_cloud (fun e => ?_) fun t ht => ?_
    · split <;> exact .refl r
    · exact keeps_ite (keeps_pure (.refl r)) (keeps_pure (.refl r))
    · have hrange := Remote.inRange ht
      have filled (w : Json) (h : Parameters.Fits w.mergeable r.spec.forProvider) :=
        h.lateInitialize hrange
      exact keeps_pure (.observed r _ filled hrange _)
  create now r :=
    keeps_addressed (fun _ => .refl r) fun url =>
      keeps_cloud (fun _ => keeps_pure (.refl r)) fun _ _ => keeps_pure (.created r _ _)
  update r := by
    refine keeps_addressed (fun _ => .refl r) fun url =>
      keeps_cloud (fun _ => keeps_pure (.refl r)) fun t _ => ?_
    refine keeps_ite (keeps_pure (.refl r)) (keeps_cloud (fun _ => ?_) fun _ _ => ?_) <;>
      exact keeps_pure (.refl r)
  delete now r := by
    have noted := (Continues.refl r).setCondition (.deleting now)
    refine keeps_addressed (fun _ => noted) fun url =>
      keeps_cloud (fun _ => ?_) fun _ _ => keeps_pure noted
    exact keeps_ite (keeps_pure noted) (keeps_pure noted)

/-- What the operations on every kind make of a resource. -/
theorem External.effect_ofKind : ∀ k, (External.ofKind k).Effect
  | .vpc => Vpc.effect
  | .subnet => Subnet.effect
  | .resourceInstance => ResourceInstance.effect
  | .resourceKey => ResourceKey.effect
  | .topic => Topic.effect

end ResourceOperator
