import Mathlib.Data.List.Forall2
import ResourceOperator.Proofs.Resolution

/-!
# What a field resolves to

`Resolves` says, without running anything, what resolving a field may ask, what it may be answered,
and what it then comes to. A value that nothing selects stands. Otherwise a reference is looked up,
once and by its name; otherwise a selector is held against one listing, and has to pick exactly one
object of it; otherwise there is nothing. Objects are picked by their labels alone and counted, so
that their order in the listing does not matter.

Results:
* `ofMatches_perm`: what a selector comes to does not depend on the order of what it picks.
* `resolves_listed`: what a selector comes to, by the objects that carry its labels.
* `run_relisted`: a listing may come in any order.
* `resolution_specified`: resolving a field does what `Resolves` says, and nothing else, in
  whatever order objects are listed.
* `devNetwork_passed_over`: a selector that picks the second of two networks.
-/

namespace ResourceOperator.Resolution

open Dialogue

variable {k : Kind} {request : Request k}

/-! ## Objects that a selector picks -/

/-- An object carries every label of a selector, with its value. -/
def Carries (selector : Selector) (o : Managed k) : Prop :=
  ∀ e ∈ selector.matchLabels, o.metadata.labelTable.get? e.1 = some e.2

theorem selects_iff {selector : Selector} {o : Managed k} :
    selector.selects o.metadata.labelTable = true ↔ Carries selector o := by
  simp [Selector.selects, Carries]

instance (selector : Selector) (o : Managed k) : Decidable (Carries selector o) :=
  decidable_of_iff _ selects_iff

/-- The objects that carry the labels of a selector. -/
def picked (selector : Selector) (objects : List (Managed k)) : List (Managed k) :=
  objects.filter fun o => Carries selector o

theorem filter_selects (selector : Selector) (objects : List (Managed k)) :
    objects.filter (fun o => selector.selects o.metadata.labelTable) = picked selector objects := by
  refine List.filter_congr fun o _ => ?_
  exact Bool.eq_iff_iff.mpr (selects_iff.trans decide_eq_true_iff.symm)

theorem ofMatches_of_many {found : List (Managed k)} (h : 1 < found.length) :
    ofMatches request found = .error (.ambiguousReference request.field found.length) := by
  match found, h with
  | _ :: _ :: _, _ => rfl

/-- What a selector comes to is the same in whatever order objects are picked. -/
theorem ofMatches_perm {found found' : List (Managed k)} (h : found.Perm found') :
    ofMatches request found = ofMatches request found' := by
  match found with
  | [] =>
    rw [List.nil_perm.mp h]
  | [target] =>
    rw [List.singleton_perm.mp h]
  | a :: b :: rest =>
    have hmany : 1 < (a :: b :: rest).length := Nat.lt_add_of_pos_left (Nat.succ_pos _)
    rw [ofMatches_of_many hmany, ofMatches_of_many (h.length_eq ▸ hmany), h.length_eq]

/-! ## What resolving a field comes to -/

/-- Resolving a field comes to a result by these exchanges. -/
inductive Resolves (request : Request k) :
    List (Exchange (Lookup k)) → Except EngineError Resolution → Prop where
  /-- A value that nothing selects is kept, with its reference. -/
  | kept (hcurrent : request.current ≠ "") (hselector : request.selector = none) :
    Resolves request [] (.ok ⟨request.current, request.reference⟩)
  /-- A reference leads to an object. -/
  | fetched {reference : Reference} (target : Managed k)
    (hopen : request.current = "" ∨ request.selector ≠ none)
    (hreference : request.reference = some reference) :
    Resolves request [⟨LookupCall.get reference.name, .ok target⟩]
      (.ok ⟨request.extract target, some reference⟩)
  /-- A reference leads nowhere. -/
  | unfetched {reference : Reference} (e : EngineError)
    (hopen : request.current = "" ∨ request.selector ≠ none)
    (hreference : request.reference = some reference) :
    Resolves request [⟨LookupCall.get reference.name, .error e⟩]
      (.error (.resolutionFailed request.field e))
  /-- There is no listing to select from. -/
  | unlisted {selector : Selector} (e : EngineError) (hreference : request.reference = none)
    (hselector : request.selector = some selector) :
    Resolves request [⟨LookupCall.list, .error e⟩] (.error (.resolutionFailed request.field e))
  /-- No object carries the labels of the selector. -/
  | unmatched {selector : Selector} {objects : List (Managed k)}
    (hreference : request.reference = none) (hselector : request.selector = some selector)
    (hnone : ∀ o ∈ objects, ¬ Carries selector o) :
    Resolves request [⟨LookupCall.list, .ok objects⟩]
      (.error (.notFound ("no object matches the " ++ request.field ++ " selector")))
  /-- One object carries them. -/
  | matched {selector : Selector} {objects : List (Managed k)} {target : Managed k}
    (hreference : request.reference = none) (hselector : request.selector = some selector)
    (honly : picked selector objects = [target]) :
    Resolves request [⟨LookupCall.list, .ok objects⟩]
      (.ok ⟨request.extract target, some ⟨target.displayName⟩⟩)
  /-- More than one object carries them. -/
  | ambiguous {selector : Selector} {objects : List (Managed k)}
    (hreference : request.reference = none) (hselector : request.selector = some selector)
    (hmany : 1 < (picked selector objects).length) :
    Resolves request [⟨LookupCall.list, .ok objects⟩]
      (.error (.ambiguousReference request.field (picked selector objects).length))
  /-- There is nothing to resolve from. -/
  | nothing (hcurrent : request.current = "") (hreference : request.reference = none)
    (hselector : request.selector = none) :
    Resolves request [] (.ok ⟨"", none⟩)

variable {selector : Selector} {objects : List (Managed k)}
  {result : Except EngineError Resolution} {log log' : List (Exchange (Lookup k))}

theorem isKept_iff : request.IsKept ↔ request.current ≠ "" ∧ request.selector = none := by
  simp [Request.IsKept]

theorem not_isKept_iff : ¬ request.IsKept ↔ request.current = "" ∨ request.selector ≠ none := by
  rw [isKept_iff, not_and_or, not_ne_iff]

theorem picked_eq_nil_iff : picked selector objects = [] ↔ ∀ o ∈ objects, ¬ Carries selector o := by
  simp [picked]

/-- What a listing leads to, by the objects of it that carry the labels of the selector. -/
theorem resolves_listed (hreference : request.reference = none)
    (hselector : request.selector = some selector) (objects : List (Managed k)) :
    Resolves request [⟨LookupCall.list, .ok objects⟩]
      (ofMatches request (picked selector objects)) := by
  match hpicked : picked selector objects with
  | [] => exact .unmatched hreference hselector (picked_eq_nil_iff.mp hpicked)
  | [target] => exact .matched hreference hselector hpicked
  | a :: b :: rest =>
    have hmany : 1 < (picked selector objects).length := by
      rw [hpicked]
      exact Nat.lt_add_of_pos_left (Nat.succ_pos _)
    rw [← hpicked, ofMatches_of_many hmany]
    exact .ambiguous hreference hselector hmany

/-- A run does what is specified. -/
theorem resolves_of_run (run : Run (resolve request) log result) : Resolves request log result := by
  by_cases hkept : request.IsKept
  · rw [resolve_of_kept hkept] at run
    obtain ⟨rfl, rfl⟩ := run_done_iff.mp run
    obtain ⟨hcurrent, hselector⟩ := isKept_iff.mp hkept
    exact .kept hcurrent hselector
  · have hopen := not_isKept_iff.mp hkept
    cases hr : request.reference with
    | some reference =>
      rw [resolve_by_reference hkept hr] at run
      obtain ⟨answer, rfl, rfl⟩ := run_ask_done_iff.mp run
      cases answer with
      | error e => exact .unfetched e hopen hr
      | ok target => exact .fetched target hopen hr
    | none =>
      cases hs : request.selector with
      | some selector =>
        rw [resolve_by_selector hkept hr hs] at run
        obtain ⟨answer, rfl, rfl⟩ := run_ask_done_iff.mp run
        cases answer with
        | error e => exact .unlisted e hr hs
        | ok objects =>
          rw [Request.selected, filter_selects]
          exact resolves_listed hr hs objects
      | none =>
        rw [resolve_by_nothing hkept hr hs] at run
        obtain ⟨rfl, rfl⟩ := run_done_iff.mp run
        exact .nothing (hopen.resolve_right (· hs)) hr hs

/-- What a run by a listing comes to. -/
theorem run_listed (hreference : request.reference = none)
    (hselector : request.selector = some selector) (hresult : result =
      ofMatches request (picked selector objects)) :
    Run (resolve request) [⟨LookupCall.list, .ok objects⟩] result := by
  have hopen : ¬ request.IsKept := not_isKept_iff.mpr (.inr (by simp [hselector]))
  rw [resolve_by_selector hopen hreference hselector, hresult, ← filter_selects]
  exact .ask _ _ (.done _)

/-- What is specified is done by a run. -/
theorem Resolves.run (h : Resolves request log result) : Run (resolve request) log result := by
  cases h with
  | kept hcurrent hselector =>
    rw [resolve_of_kept (isKept_iff.mpr ⟨hcurrent, hselector⟩)]
    exact .done _
  | fetched target hopen hreference =>
    rw [resolve_by_reference (not_isKept_iff.mpr hopen) hreference]
    exact .ask _ _ (.done _)
  | unfetched e hopen hreference =>
    rw [resolve_by_reference (not_isKept_iff.mpr hopen) hreference]
    exact .ask _ _ (.done _)
  | unlisted e hreference hselector =>
    have hopen : ¬ request.IsKept := not_isKept_iff.mpr (.inr (by simp [hselector]))
    rw [resolve_by_selector hopen hreference hselector]
    exact .ask _ _ (.done _)
  | unmatched hreference hselector hnone =>
    refine run_listed hreference hselector ?_
    rw [picked_eq_nil_iff.mpr hnone]
    rfl
  | matched hreference hselector honly =>
    refine run_listed hreference hselector ?_
    rw [honly]
    rfl
  | ambiguous hreference hselector hmany =>
    exact run_listed hreference hselector (ofMatches_of_many hmany).symm
  | nothing hcurrent hreference hselector =>
    rw [resolve_by_nothing (not_isKept_iff.mpr (.inl hcurrent)) hreference hselector]
    exact .done _

/-! ## Listings in another order -/

/-- The same exchange, or the same objects listed in another order. -/
inductive Relisted : Exchange (Lookup k) → Exchange (Lookup k) → Prop where
  | same (x : Exchange (Lookup k)) : Relisted x x
  | listed {objects objects' : List (Managed k)} (h : objects.Perm objects') :
    Relisted ⟨LookupCall.list, .ok objects⟩ ⟨LookupCall.list, .ok objects'⟩

theorem Relisted.symm {x y : Exchange (Lookup k)} (h : Relisted x y) : Relisted y x := by
  cases h with
  | same => exact .same _
  | listed h => exact .listed h.symm

/-- What a selector comes to is the same in whatever order objects are listed. -/
theorem selected_perm {objects' : List (Managed k)} (h : objects.Perm objects') :
    request.selected selector (.ok objects) = request.selected selector (.ok objects') :=
  ofMatches_perm (h.filter _)

/-- A run goes the same way where objects are listed in another order. -/
theorem run_relisted (run : Run (resolve request) log result) (h : List.Forall₂ Relisted log log') :
    Run (resolve request) log' result := by
  by_cases hkept : request.IsKept
  · rw [resolve_of_kept hkept] at run ⊢
    obtain ⟨rfl, rfl⟩ := run_done_iff.mp run
    cases h
    exact .done _
  · cases hr : request.reference with
    | some reference =>
      rw [resolve_by_reference hkept hr] at run ⊢
      obtain ⟨answer, rfl, rfl⟩ := run_ask_done_iff.mp run
      obtain ⟨y, rest, hy, hrest, rfl⟩ := List.forall₂_cons_left_iff.mp h
      cases hrest
      cases hy
      exact .ask _ _ (.done _)
    | none =>
      cases hs : request.selector with
      | some selector =>
        rw [resolve_by_selector hkept hr hs] at run ⊢
        obtain ⟨answer, rfl, rfl⟩ := run_ask_done_iff.mp run
        obtain ⟨y, rest, hy, hrest, rfl⟩ := List.forall₂_cons_left_iff.mp h
        cases hrest
        cases hy with
        | same => exact .ask _ _ (.done _)
        | listed hperm =>
          rw [selected_perm hperm]
          exact .ask _ _ (.done _)
      | none =>
        rw [resolve_by_nothing hkept hr hs] at run ⊢
        obtain ⟨rfl, rfl⟩ := run_done_iff.mp run
        cases h
        exact .done _

/-- **Resolving a field meets its specification.** Whatever the field has, is extracted by, and is
answered, its runs are the ones that are specified, and listing the same objects in another order
changes no result. -/
theorem resolution_specified (request : Request k) :
    (∀ log result, Run (resolve request) log result ↔ Resolves request log result) ∧
    ∀ log log' : List (Exchange (Lookup k)), List.Forall₂ Relisted log log' →
      ∀ result, Run (resolve request) log result ↔ Run (resolve request) log' result := by
  refine ⟨fun log result => ⟨resolves_of_run, Resolves.run⟩, fun log log' h result => ?_⟩
  have hback : List.Forall₂ Relisted log' log := (h.imp fun _ _ hx => hx.symm).flip
  exact ⟨fun run => run_relisted run h, fun run => run_relisted run hback⟩

/-- A network with an external name and an environment. -/
def labelledNetwork (name external environment : String) : Managed .vpc where
  metadata :=
    { Metadata.empty with
      annotations := some [(Metadata.externalNameKey, external)]
      labels := some [("env", environment)]
      name := some name }
  spec := ⟨⟨none, none, none, none⟩, .delete, none, ()⟩
  status := none

/-- A field that was resolved before, and selects the network of the production environment. -/
def productionRequest : Request .vpc where
  field := "vpc"
  current := "r006-old"
  reference := none
  selector := some ⟨[("env", "prod")]⟩
  extract := Managed.externalNameText

/-- Two networks, of which the first is used in production. -/
def networks : List (Managed .vpc) :=
  [labelledNetwork "a" "r006-a" "prod", labelledNetwork "b" "r006-b" "dev"]

/-- A selector picks the one network of two that carries its label, also when that comes last. -/
theorem devNetwork_passed_over :
    Run (resolve productionRequest) [⟨LookupCall.list, .ok networks.reverse⟩]
      (.ok ⟨"r006-a", some ⟨"a"⟩⟩) := by
  have only : picked ⟨[("env", "prod")]⟩ networks = [labelledNetwork "a" "r006-a" "prod"] := rfl
  have run : Run (resolve productionRequest) [⟨LookupCall.list, .ok networks⟩]
      (.ok ⟨"r006-a", some ⟨"a"⟩⟩) :=
    ((resolution_specified productionRequest).1 _ _).mpr (.matched rfl rfl only)
  have reversed : Relisted (k := .vpc) ⟨LookupCall.list, .ok networks⟩
      ⟨LookupCall.list, .ok networks.reverse⟩ :=
    .listed networks.reverse_perm.symm
  exact ((resolution_specified productionRequest).2 _ _ (.cons reversed .nil) _).mp run

end ResourceOperator.Resolution
