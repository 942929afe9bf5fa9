import ResourceOperator.Proofs.Dialogue
import ResourceOperator.Reconcile.World

/-!
# References resolved twice

The kinds with references resolve one field each, and take over what was found (`takeOver`). From
then on the field is found through the reference that is in place, or is not looked up any more.
Where the object of the reference is the same as before, so is the value, and the second resolution
comes to what the first one did. An object that a selector has picked is found by its name: that is
what `Named` says of the declared objects.

Results:
* `Subnet.resolveReferences_eq` and the same for the other kinds with references.
* `resolve_by_reference`, `resolve_by_selector`, `resolve_by_nothing`: the one question that
  resolving a field asks, if any.
* `resolve_of_reference`: a field whose reference leads to its value keeps both.
* `resolve_again`: a field that has been resolved resolves to the same again.
-/

namespace ResourceOperator

open Dialogue

/-! ## What is taken over -/

section Taking

variable {k : Kind}

/-- Resolves one field of a resource, and takes over what is found unless it is pending. -/
def Resolution.takeOver {j : Kind} (request : Request j) (field : String)
    (take : Resolution → Filled (Parameters k)) (r : Managed k) :
    Dialogue Outside (Outcome k Resolved) := do
  match ← Outside.ofLookup (resolve request) with
  | .error e => pure (.fail e r)
  | .ok found =>
    if found.isPending then pure (.ok ⟨false, [field]⟩ r)
    else pure (.ok ⟨(take found).changed, []⟩ (r.setParameters (take found).value))

theorem Subnet.resolveReferences_eq (r : Managed .subnet) :
    (External.ofKind .subnet).resolveReferences r =
      Resolution.takeOver (k := .subnet) (resolutionRequest r.spec.forProvider) "vpc"
        (applyResolution r.spec.forProvider) r := rfl

theorem ResourceKey.resolveReferences_eq (r : Managed .resourceKey) :
    (External.ofKind .resourceKey).resolveReferences r =
      Resolution.takeOver (k := .resourceKey) (resolutionRequest r.spec.forProvider) "source"
        (applyResolution r.spec.forProvider) r := rfl

theorem Topic.resolveReferences_eq (r : Managed .topic) :
    (External.ofKind .topic).resolveReferences r =
      Resolution.takeOver (k := .topic) (resolutionRequest r.spec.forProvider) "kafkaAdminUrl"
        (applyResolution r.spec.forProvider) r := rfl

end Taking

/-! ## Looking up the same again -/

namespace Resolution

variable {k : Kind} {answers : (q : (Lookup k).Question) → (Lookup k).Answer q}
  {request : Request k}

/-- Every object that is listed is found by its name. -/
def Named (answers : (q : (Lookup k).Question) → (Lookup k).Answer q) : Prop :=
  ∀ objects, answers LookupCall.list = .ok objects →
    ∀ o ∈ objects, answers (LookupCall.get o.displayName) = .ok o

/-- The field to resolve, with what it was resolved to. -/
def Request.resolved (request : Request k) (found : Resolution) : Request k :=
  { request with current := found.value, reference := found.reference }

/-- A value without a selector is not looked up. -/
abbrev Request.IsKept (request : Request k) : Prop :=
  (!request.current.isEmpty && request.selector.isNone) = true

theorem resolve_of_kept (h : request.IsKept) :
    resolve request = pure (.ok ⟨request.current, request.reference⟩) := if_pos h

/-- What a field resolves to by a reference, with the object that this leads to. -/
def Request.referred (request : Request k) (reference : Reference) :
    Except EngineError (Managed k) → Except EngineError Resolution
  | .error e => .error (.resolutionFailed request.field e)
  | .ok target => .ok ⟨request.extract target, some reference⟩

/-- What a field resolves to by a selector, with the objects that it selects from. -/
def Request.selected (request : Request k) (selector : Selector) :
    Except EngineError (List (Managed k)) → Except EngineError Resolution
  | .error e => .error (.resolutionFailed request.field e)
  | .ok candidates => ofMatches request
      (candidates.filter fun c => selector.selects c.metadata.labelTable)

/-- A reference is looked up by its name. -/
theorem resolve_by_reference (h : ¬ request.IsKept) {reference : Reference}
    (hr : request.reference = some reference) :
    resolve request = .ask (LookupCall.get reference.name) fun answer =>
      .done (request.referred reference answer) := by
  rw [resolve, if_neg h, hr]
  show Dialogue.ask _ _ = _
  congr 1
  funext answer
  cases answer <;> rfl

/-- Without a reference, a selector selects from a listing. -/
theorem resolve_by_selector (h : ¬ request.IsKept) (hr : request.reference = none)
    {selector : Selector} (hs : request.selector = some selector) :
    resolve request = .ask LookupCall.list fun answer =>
      .done (request.selected selector answer) := by
  rw [resolve, if_neg h, hr, hs]
  show Dialogue.ask _ _ = _
  congr 1
  funext answer
  cases answer <;> rfl

/-- Without either there is nothing to resolve from. -/
theorem resolve_by_nothing (h : ¬ request.IsKept) (hr : request.reference = none)
    (hs : request.selector = none) : resolve request = .done (.ok ⟨"", none⟩) := by
  rw [resolve, if_neg h, hr, hs]
  rfl

/-- A field whose reference leads to its value keeps both. -/
theorem resolve_of_reference {reference : Reference} {target : Managed k}
    (hr : request.reference = some reference)
    (hget : answers (LookupCall.get reference.name) = .ok target)
    (hvalue : request.extract target = request.current) :
    (resolve request).run answers = .ok ⟨request.current, some reference⟩ := by
  by_cases h : request.IsKept
  · rw [resolve_of_kept h, hr]
    rfl
  · rw [resolve_by_reference h hr, ← hvalue]
    exact congrArg (request.referred reference) hget

/-- A resolution by the objects that a selector picks is one of the only object picked. -/
theorem ofMatches_eq_ok {picked : List (Managed k)} {found : Resolution}
    (h : ofMatches request picked = .ok found) :
    ∃ target, picked = [target] ∧ found = ⟨request.extract target, some ⟨target.displayName⟩⟩ := by
  cases picked with
  | nil => cases h
  | cons target rest =>
    cases rest with
    | nil =>
      cases h
      exact ⟨target, rfl, rfl⟩
    | cons other rest => cases h

/-- A field that has been resolved resolves to the same again. -/
theorem resolve_again {found : Resolution} (hn : Named answers)
    (h : (resolve request).run answers = .ok found) (hp : found.isPending = false) :
    (resolve (request.resolved found)).run answers = .ok found := by
  by_cases hkept : request.IsKept
  · rw [resolve_of_kept hkept] at h
    cases h
    have hsame : request.resolved ⟨request.current, request.reference⟩ = request := rfl
    rw [hsame, resolve_of_kept hkept]
    rfl
  · cases hr : request.reference with
    | some reference =>
      rw [resolve_by_reference hkept hr] at h
      change request.referred reference (answers (LookupCall.get reference.name)) = _ at h
      cases hget : answers (LookupCall.get reference.name) with
      | error e =>
        rw [hget] at h
        cases h
      | ok target =>
        rw [hget] at h
        cases h
        exact resolve_of_reference rfl hget rfl
    | none =>
      cases hs : request.selector with
      | none =>
        -- there is nothing to resolve from
        rw [resolve_by_nothing hkept hr hs] at h
        cases h
        cases hp
      | some selector =>
        rw [resolve_by_selector hkept hr hs] at h
        change request.selected selector (answers LookupCall.list) = _ at h
        cases hlist : answers LookupCall.list with
        | error e =>
          rw [hlist] at h
          cases h
        | ok candidates =>
          rw [hlist] at h
          obtain ⟨target, hpicked, rfl⟩ := ofMatches_eq_ok h
          have htarget : target ∈ candidates := by
            have hmem : target ∈ [target] := List.mem_singleton.mpr rfl
            rw [← hpicked] at hmem
            exact (List.mem_filter.mp hmem).1
          exact resolve_of_reference rfl (hn candidates hlist target htarget) rfl

end Resolution

end ResourceOperator
