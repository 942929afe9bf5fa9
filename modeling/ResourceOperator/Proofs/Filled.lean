import ResourceOperator.Proofs.Desired
import ResourceOperator.Proofs.Observed
import ResourceOperator.ResourceInstance.Mapping
import ResourceOperator.ResourceKey.Mapping
import ResourceOperator.Subnet.Mapping
import ResourceOperator.Topic.Mapping
import ResourceOperator.Vpc.Mapping

/-!
# Desired state filled in

Filling an unset field from what was observed puts a value where the stored document has nothing, or
only text. An identity that is there but empty is filled in its own form, and a configuration entry
by entry. So a desired state that fits a document still fits it when it has been filled in.

Results:
* `Filled.ofText_fits` and one lemma for each way to fill a field.
* `Vpc.Parameters.Fits.lateInitialize` and the same for the other kinds: a desired state that fits
  still does when it has been filled in.
* `Subnet.Remote.inRange`, `Topic.Remote.inRange`, `ResourceInstance.Remote.readable_parameters`:
  what a reported object can be filled in with.
-/

namespace ResourceOperator

open Json Json.Reader

namespace Filled

variable {α : Type} {decode : Json → Option α} {target : Json}

theorem ofText_fits {desired : Option String} (h : OptionalFits text target desired)
    (observed : String) : OptionalFits text target (ofText desired observed).value := by
  refine text_fits_taken h ?_
  unfold ofText
  split
  · exact .inr rfl
  · exact .inl rfl

theorem ofRequired_fits {desired : String} (h : Fits text target desired) (observed : String) :
    Fits text target (ofRequired desired observed).value := by
  unfold ofRequired
  split
  · exact Fits.taken plain_text h (readable_text observed)
  · exact h

theorem ofOption_fits {desired observed : Option α} (h : OptionalFits decode target desired)
    (ho : ∀ a, observed = some a → Readable decode a) :
    OptionalFits decode target (ofOption desired observed).value := by
  cases desired with
  | some _ => exact h
  | none =>
    cases observed with
    | none => exact h
    | some a =>
      obtain rfl : target = .null := h
      exact (ho a rfl).fits_null

/-- An unset identity is filled where there is nothing, an empty one in its own form. -/
theorem ofIdentity_fits {desired : Option Identity} (h : Optionally Identity.Fits target desired)
    (observed : Option Cloud.ObjectReference) :
    Optionally Identity.Fits target (ofIdentity desired observed).value := by
  cases observed with
  | none => exact h
  | some r =>
    cases desired with
    | none =>
      obtain rfl : target = .null := h
      rw [ofIdentity]
      split
      · rfl
      · exact Or.inl rfl
    | some i =>
      rw [ofIdentity]
      split <;> exact h

end Filled

/-! ## Networks -/

theorem Vpc.Parameters.Fits.lateInitialize {target : List (String × Json)} {p : Parameters}
    (h : p.Fits target) (v : Remote) : (p.lateInitialize v).value.Fits target :=
  { h with
    name := Filled.ofText_fits h.name _
    classicAccess := Filled.ofOption_fits h.classicAccess fun b _ => readable_flag b
    resourceGroup := Filled.ofIdentity_fits h.resourceGroup _ }

/-! ## Subnets -/

namespace Subnet

/-- The counts of a reported subnet are in range. -/
theorem Remote.inRange {s : Remote} (h : Readable Remote.decode s) :
    Observation.InRange .subnet s.observation := by
  have hreference : Readable Cloud.ObjectReference.decode .empty :=
    ⟨.object [], ⟨List.Pairwise.nil, trivial⟩, rfl⟩
  have hzone : Readable ZoneReference.decode .empty :=
    ⟨.object [], ⟨List.Pairwise.nil, trivial⟩, rfl⟩
  exact fits_of_read (fun s : Remote => Observation.InRange .subnet s.observation) h.fits_null <|
    fits_bind fits_required fun _ _ => fits_bind (fits_defaulted (readable_text "")) fun _ _ =>
    fits_bind (fits_defaulted (readable_text "")) fun _ _ =>
    fits_bind (fits_defaulted (readable_text "")) fun _ _ =>
    fits_bind (fits_defaulted (readable_text "")) fun _ _ =>
    fits_bind (fits_defaulted (readable_text "")) fun _ _ =>
    fits_bind (fits_defaulted readable_zero) fun _ h₁ =>
    fits_bind (fits_defaulted readable_zero) fun _ h₂ =>
    fits_bind (fits_defaulted ⟨.string "unknown", trivial, rfl⟩) fun _ _ =>
    fits_bind fits_lastOptional fun _ _ => fits_bind fits_lastOptional fun _ _ =>
    fits_bind fits_lastOptional fun _ _ => fits_bind fits_lastOptional fun _ _ =>
    fits_bind fits_lastOptional fun _ _ => fits_bind (fits_defaulted hreference) fun _ _ =>
    fits_bind (fits_defaulted hzone) fun _ _ => fits_pure ⟨h₁.readable, h₂.readable⟩

theorem Common.Fits.lateInitialize {target : List (String × Json)} {c : Common} (h : c.Fits target)
    (s : Remote) : (c.lateInitialize s).value.Fits target :=
  { h with
    name := Filled.ofText_fits h.name _
    ipVersion := Filled.ofText_fits h.ipVersion _
    networkAcl := Filled.ofIdentity_fits h.networkAcl _
    publicGateway := Filled.ofIdentity_fits h.publicGateway _
    resourceGroup := Filled.ofIdentity_fits h.resourceGroup _
    routingTable := Filled.ofIdentity_fits h.routingTable _
    vpc := Filled.ofIdentity_fits h.vpc _ }

theorem Sizing.Fits.lateInitialize {target : List (String × Json)} {sizing : Sizing}
    (h : sizing.Fits target) {s : Remote} (hs : Observation.InRange .subnet s.observation) :
    (sizing.lateInitialize s).value.Fits target := by
  cases sizing with
  | byTotalCount count zone =>
    refine ⟨?_, Filled.ofRequired_fits h.2 _⟩
    split
    · exact Json.Fits.taken plain_int64 h.1 hs.2
    · exact h.1
  | byCidr block zone => exact ⟨Filled.ofRequired_fits h.1 _, Filled.ofText_fits h.2 _⟩

theorem Parameters.Fits.lateInitialize {v : Json} {p : Parameters} (h : p.Fits v) {s : Remote}
    (hs : Observation.InRange .subnet s.observation) : (p.lateInitialize s).value.Fits v := by
  have hb : (p.lateInitialize s).value.branch = p.branch := by
    obtain ⟨common, sizing⟩ := p
    cases sizing <;> rfl
  refine ⟨?_, ?_, ?_⟩
  · rw [hb]
    exact h.way
  · rw [hb]
    exact h.common.lateInitialize s
  · rw [hb]
    exact h.sizing.lateInitialize hs

end Subnet

/-! ## Service instances -/

namespace ResourceInstance

/-- The parameters of a reported instance are in order, and not null. -/
theorem Remote.readable_parameters {r : Remote} (h : Readable Remote.decode r) :
    ∀ v, r.parameters = some v → Readable (given any) v := by
  have hread := fits_of_read (fun r : Remote => OptionalFits (given any) .null r.parameters)
    h.fits_null <|
    fits_bind fits_required fun _ _ => fits_bind (fits_defaulted (readable_text "")) fun _ _ =>
    fits_bind (fits_defaulted (readable_text "")) fun _ _ =>
    fits_bind (fits_defaulted (readable_text "")) fun _ _ =>
    fits_bind (fits_defaulted (readable_text "")) fun _ _ =>
    fits_bind (fits_defaulted (readable_text "")) fun _ _ =>
    fits_bind (fits_defaulted (readable_text "")) fun _ _ =>
    fits_bind (fits_defaulted (readable_text "")) fun _ _ =>
    fits_bind (fits_defaulted (readable_text "")) fun _ _ =>
    fits_bind (fits_defaulted (readable_text "")) fun _ _ =>
    fits_bind (fits_defaulted (readable_text "")) fun _ _ =>
    fits_bind (fits_defaulted ⟨.string "unknown", trivial, rfl⟩) fun _ _ =>
    fits_bind (fits_defaulted (readable_flag false)) fun _ _ =>
    fits_bind (fits_defaulted (readable_flag false)) fun _ _ =>
    fits_bind fits_lastOptional fun _ h => fits_bind fits_lastOptional fun _ _ =>
    fits_bind fits_lastOptional fun _ _ => fits_bind fits_lastOptional fun _ _ =>
    fits_bind (fits_defaulted (readable_textList [])) fun _ _ => fits_pure h
  intro v hv
  rw [hv] at hread
  exact Json.Fits.readable hread

theorem Parameters.Fits.fillReported {target : List (String × Json)} {p : Parameters}
    (h : p.Fits target) {r : Remote} (hr : ∀ v, r.parameters = some v → Readable (given any) v) :
    (p.fillReported r).value.Fits target :=
  { h with
    tags := Filled.ofOption_fits h.tags fun tags _ => readable_textList tags
    allowCleanup := Filled.ofOption_fits h.allowCleanup fun b _ => readable_flag b
    entityLock := Filled.ofOption_fits h.entityLock fun b _ => readable_flag b
    parameters := Filled.ofOption_fits h.parameters fun v hv =>
      hr v (Option.filter_eq_some_iff.mp hv).1 }

end ResourceInstance

/-! ## Resource keys -/

theorem ResourceKey.Parameters.Fits.lateInitialize {target : List (String × Json)} {p : Parameters}
    (h : p.Fits target) (k : Remote) : (p.lateInitialize k).value.Fits target :=
  { h with
    source := Filled.ofText_fits h.source _
    role := Filled.ofOption_fits h.role fun role _ => readable_text role }

/-! ## Topics -/

namespace Topic

/-- The numbers of a reported topic are in range. -/
theorem Remote.inRange {t : Remote} (h : Readable Remote.decode t) :
    Observation.InRange .topic t.observation := by
  have hconfigs : Readable Configs.decodeKafka .empty :=
    ⟨.object [], ⟨List.Pairwise.nil, trivial⟩, rfl⟩
  exact fits_of_read (fun t : Remote => Observation.InRange .topic t.observation) h.fits_null <|
    fits_bind fits_required fun _ _ => fits_bind (fits_defaulted readable_zero) fun _ h₁ =>
    fits_bind (fits_defaulted readable_zero) fun _ h₂ =>
    fits_bind (fits_defaulted readable_zero) fun _ h₃ =>
    fits_bind (fits_defaulted (readable_text "")) fun _ _ =>
    fits_bind (fits_defaulted hconfigs) fun _ _ =>
    fits_bind (fits_defaulted ⟨.array [], trivial, rfl⟩) fun _ _ =>
    fits_pure ⟨h₁.readable, h₂.readable, h₃.readable⟩

/-- Unset entries are filled where there is nothing. -/
theorem Configs.Fits.orElse {target : Json} {c : Configs} (h : Fits target c) (observed : Configs) :
    Fits target (c.orElse observed) := by
  intro k
  rw [Configs.orElse, Configs.get_ofView]
  refine text_fits_taken (h k) ?_
  cases c.get k with
  | some _ => exact .inl rfl
  | none =>
    rw [Option.none_or]
    cases observed.get k with
    | none => exact .inl rfl
    | some _ => exact .inr rfl

theorem fits_fillConfigs {target : Json} {desired : Option Configs}
    (h : Optionally Configs.Fits target desired) (observed : Configs) :
    Optionally Configs.Fits target (fillConfigs desired observed).value := by
  cases desired with
  | some c => exact Configs.Fits.orElse h observed
  | none =>
    obtain rfl : target = .null := h
    rw [fillConfigs]
    split
    · rfl
    · exact fun k => optionally_null (fun s => (readable_text s).fits_null) (observed.get k)

theorem Parameters.Fits.lateInitialize {target : List (String × Json)} {p : Parameters}
    (h : p.Fits target) {t : Remote} (ht : Observation.InRange .topic t.observation) :
    (p.lateInitialize t).value.Fits target :=
  { h with
    partitions := Filled.ofOption_fits h.partitions fun n hn => by
      unfold Remote.partitions? at hn
      split at hn
      · cases hn
        exact ht.1
      · cases hn
    configs := fits_fillConfigs h.configs _ }

end Topic

end ResourceOperator
