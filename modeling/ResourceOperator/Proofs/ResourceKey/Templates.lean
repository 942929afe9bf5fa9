import Mathlib.Data.List.Forall2
import ResourceOperator.Proofs.Dialogue
import ResourceOperator.Proofs.Table
import ResourceOperator.Reconcile.World

/-!
# Connection details by templates

Templates are rendered one after the other, in the order of their keys, and the first that cannot be
rendered ends it. So the details either have every key of the templates, each with what its own
template is rendered to (`Complete`), or there are none and the failure names the least key whose
template cannot be rendered (`Broken`). Nothing of this depends on how templates are rendered, which
is a parameter here (`Rendering`).

It is a parameter of the operations on keys as well. `observeWith` and `createWith` are the
observation and the creation of a key with other connection details than those of
`connectionDetails`, and differ from `observe` and `create` in nothing else.

Results:
* `renderAll_eq_ok`, `renderAll_eq_error`: how rendering all templates ends.
* `exists_renderAll_eq_ok`: it ends well where every template can be rendered.
* `extractWith_eq_ok`, `extractWith_eq_error`: the same of the details of credentials.
* `told_observeWith`, `told_createWith`: an operation tells of the details of a key that the cloud
  has answered with, or of none, and keeps the templates.
-/

namespace ResourceOperator

open Dialogue

/-! ## Rendering all templates -/

namespace ConnectionDetails

/-- A way to render a template against credentials. -/
abbrev Rendering := String → Json → Except Template.Failure String

/-- The connection details of credentials, with templates that are rendered in this way. -/
def extractWith (render : Rendering) (templates : Table String) (credentials : Json) :
    Except EngineError (Table String) :=
  if templates.isEmpty then .ok credentials.flatten
  else renderAll (fun t => render t credentials) templates

theorem extractWith_render : extractWith Template.render = extract := rfl

section Rendering

variable {render : String → Except Template.Failure String} {templates details : Table String}

/-- The entry has the key of the template, and holds what it is rendered to. -/
def Renders (render : String → Except Template.Failure String) (template entry : String × String) :
    Prop :=
  entry.1 = template.1 ∧ render template.2 = .ok entry.2

/-- The details have the keys of the templates, and each holds what its own template is rendered
to. -/
def Complete (render : String → Except Template.Failure String) (templates details : Table String) :
    Prop :=
  List.Forall₂ (Renders render) templates details

/-- The failure names the least key whose template cannot be rendered. -/
def Broken (render : String → Except Template.Failure String) (templates : Table String)
    (e : EngineError) : Prop :=
  ∃ key template failure, e = .template key failure ∧ (key, template) ∈ templates ∧
    render template = .error failure ∧
      ∀ other ∈ templates, other.1 < key → ∃ text, render other.2 = .ok text

theorem Complete.keys (h : Complete render templates details) :
    Table.keys details = Table.keys templates := by
  induction h with
  | nil => rfl
  | cons hentry _ ih => exact congrArg₂ List.cons hentry.1 ih

theorem Complete.renders (h : Complete render templates details) {t : String × String}
    (ht : t ∈ templates) : ∃ text, render t.2 = .ok text := by
  induction h with
  | nil => cases ht
  | cons hentry _ ih =>
    rcases List.mem_cons.mp ht with rfl | ht
    · exact ⟨_, hentry.2⟩
    · exact ih ht

theorem renderAll_eq_ok :
    renderAll render templates = .ok details ↔ Complete render templates details := by
  unfold Complete
  induction templates generalizing details with
  | nil =>
    rw [List.forall₂_nil_left_iff, renderAll, Except.ok.injEq]
    exact eq_comm
  | cons t rest ih =>
    obtain ⟨key, template⟩ := t
    rw [List.forall₂_cons_left_iff, renderAll]
    cases hrender : render template with
    | error e =>
      refine ⟨nofun, ?_⟩
      rintro ⟨entry, -, ⟨-, hentry⟩, -⟩
      cases hrender.symm.trans hentry
    | ok text =>
      dsimp only
      cases hrest : renderAll render rest with
      | error e =>
        refine ⟨nofun, ?_⟩
        rintro ⟨-, later, -, hlater, -⟩
        cases hrest.symm.trans (ih.mpr hlater)
      | ok later =>
        constructor
        · intro h
          cases h
          exact ⟨(key, text), later, ⟨rfl, hrender⟩, ih.mp hrest, rfl⟩
        · rintro ⟨⟨_, text'⟩, later', ⟨rfl, hentry⟩, hlater, rfl⟩
          cases hrender.symm.trans hentry
          cases hrest.symm.trans (ih.mpr hlater)
          rfl

/-- Rendering fails at the first template that cannot be rendered. -/
theorem renderAll_eq_error {e : EngineError} :
    renderAll render templates = .error e ↔ ∃ before key template after failure,
      templates = before ++ (key, template) :: after ∧
        (∀ t ∈ before, ∃ text, render t.2 = .ok text) ∧ render template = .error failure ∧
          e = .template key failure := by
  induction templates with
  | nil =>
    refine ⟨nofun, ?_⟩
    rintro ⟨before, key, template, after, failure, h, -⟩
    exact absurd h.symm (List.append_ne_nil_of_right_ne_nil _ (List.cons_ne_nil _ _))
  | cons t rest ih =>
    obtain ⟨key, template⟩ := t
    cases hrender : render template with
    | error failure =>
      rw [renderAll, hrender]
      constructor
      · intro h
        cases h
        exact ⟨[], key, template, rest, failure, rfl, nofun, hrender, rfl⟩
      · rintro ⟨before, _, _, _, _, h, hbefore, hfailure, rfl⟩
        rcases List.cons_eq_append_iff.mp h with ⟨rfl, h⟩ | ⟨before, rfl, -⟩
        · cases h
          cases hrender.symm.trans hfailure
          rfl
        · obtain ⟨text, htext⟩ := hbefore _ List.mem_cons_self
          cases hrender.symm.trans htext
    | ok text =>
      have hlater : renderAll render ((key, template) :: rest) = .error e ↔
          renderAll render rest = .error e := by
        rw [renderAll, hrender]
        cases renderAll render rest with
        | error _ => exact Iff.rfl
        | ok _ => exact ⟨nofun, nofun⟩
      refine hlater.trans (ih.trans ⟨?_, ?_⟩)
      · rintro ⟨before, other, broken, after, failure, rfl, hbefore, hfailure, rfl⟩
        exact ⟨_ :: before, other, broken, after, failure, rfl,
          List.forall_mem_cons.mpr ⟨⟨text, hrender⟩, hbefore⟩, hfailure, rfl⟩
      · rintro ⟨before, other, broken, after, failure, h, hbefore, hfailure, rfl⟩
        rcases List.cons_eq_append_iff.mp h with ⟨-, h⟩ | ⟨before, rfl, rfl⟩
        · cases h
          cases hrender.symm.trans hfailure
        · exact ⟨before, other, broken, after, failure, rfl,
            (List.forall_mem_cons.mp hbefore).2, hfailure, rfl⟩

theorem exists_renderAll_eq_ok :
    (∃ details, renderAll render templates = .ok details) ↔
      ∀ t ∈ templates, ∃ text, render t.2 = .ok text := by
  constructor
  · rintro ⟨details, h⟩ t ht
    exact (renderAll_eq_ok.mp h).renders ht
  · intro h
    cases hall : renderAll render templates with
    | ok details => exact ⟨details, rfl⟩
    | error e =>
      obtain ⟨before, key, template, after, failure, rfl, -, hfailure, -⟩ :=
        renderAll_eq_error.mp hall
      obtain ⟨text, htext⟩ := h (key, template) (List.mem_append_right _ List.mem_cons_self)
      cases htext.symm.trans hfailure

/-- In a table in order, the first key is the least. -/
theorem renderAll_eq_error_of_sorted (hs : templates.Sorted) {e : EngineError} :
    renderAll render templates = .error e ↔ Broken render templates e := by
  rw [renderAll_eq_error]
  constructor
  · rintro ⟨before, key, template, after, failure, rfl, hbefore, hfailure, rfl⟩
    refine ⟨key, template, failure, rfl, List.mem_append_right _ List.mem_cons_self, hfailure,
      fun other hother hlt => ?_⟩
    obtain ⟨-, hafter, -⟩ := List.pairwise_append.mp hs
    rcases List.mem_append.mp hother with hother | hother
    · exact hbefore other hother
    · rcases List.mem_cons.mp hother with rfl | hother
      · exact absurd hlt (String.lt_irrefl _)
      · have hgt := (List.pairwise_cons.mp hafter).1 other hother
        exact absurd hlt (String.lt_asymm hgt)
  · rintro ⟨key, template, failure, rfl, hmem, hfailure, hleast⟩
    obtain ⟨before, after, rfl⟩ := List.append_of_mem hmem
    obtain ⟨-, -, hbefore⟩ := List.pairwise_append.mp hs
    refine ⟨before, key, template, after, failure, rfl, fun t ht => ?_, hfailure, rfl⟩
    exact hleast t (List.mem_append_left _ ht) (hbefore t ht _ List.mem_cons_self)

end Rendering

/-! ## The details of credentials -/

section Extraction

variable {render : Rendering} {templates details : Table String} {credentials : Json}
  (h : templates ≠ [])

include h

theorem extractWith_of_ne_nil :
    extractWith render templates credentials =
      renderAll (fun t => render t credentials) templates := by
  rw [extractWith, List.isEmpty_eq_false_iff.mpr h]
  rfl

theorem exists_extractWith_eq_ok :
    (∃ details, extractWith render templates credentials = .ok details) ↔
      ∀ t ∈ templates, ∃ text, render t.2 credentials = .ok text := by
  rw [extractWith_of_ne_nil h]
  exact exists_renderAll_eq_ok

theorem extractWith_eq_ok :
    extractWith render templates credentials = .ok details ↔
      Complete (fun t => render t credentials) templates details := by
  rw [extractWith_of_ne_nil h]
  exact renderAll_eq_ok

theorem extractWith_eq_error (hs : templates.Sorted) {e : EngineError} :
    extractWith render templates credentials = .error e ↔
      Broken (fun t => render t credentials) templates e := by
  rw [extractWith_of_ne_nil h]
  exact renderAll_eq_error_of_sorted hs

end Extraction

end ConnectionDetails

/-! ## Operations with details of any make -/

namespace Outside

/-- The cloud answers with this key, when it is asked for it or to create it. -/
def Yields (key : ResourceKey.Remote) (x : Exchange Outside) : Prop :=
  (∃ id, x = ⟨.cloud (.controller (.getKey id)), .ok key⟩) ∨
    ∃ request, x = ⟨.cloud (.controller (.createKey request)), .ok key⟩

end Outside

namespace ResourceKey

/-- The templates of a declared key, an empty table where it has none. -/
def declaredTemplates (r : Managed .resourceKey) : Table String :=
  let templates : Option (Table String) := r.spec.connectionTemplates
  templates.getD []

/-- What is published of a key in the cloud, for the declared key. -/
abbrev Detailing := Managed .resourceKey → Remote → Table String

/-- The connection details of a key with templates that are rendered in this way, none when one
cannot be rendered. -/
def connectionDetailsWith (render : ConnectionDetails.Rendering) : Detailing := fun r remote =>
  match ConnectionDetails.extractWith render (declaredTemplates r) remote.credentials with
  | .ok details => details
  | .error _ => []

/-- Looks at the key, and tells of details of this make. -/
def observeWith (details : Detailing) (now : String) (r : Managed .resourceKey) :
    Dialogue Outside (Outcome .resourceKey Observed) :=
  match r.externalName with
  | none => pure (.ok .absent r)
  | some id => do
    match ← fetch id with
    | .error e => pure (.fail e r)
    | .ok none => pure (.ok .absent r)
    | .ok (some remote) =>
      let filled := Parameters.lateInitialize r.spec.forProvider remote
      pure (.ok ⟨true, filled.value.isUpToDate remote, filled.changed, details r remote⟩
        (recordRemote now r remote filled.value))

/-- Creates the key, and tells of details of this make. -/
def createWith (details : Detailing) (now : String) (r : Managed .resourceKey) :
    Dialogue Outside (Outcome .resourceKey Created) :=
  match Parameters.request r.spec.forProvider with
  | .error e => pure (.fail e r)
  | .ok request => do
    match ← Outside.cloud (.controller (.createKey request)) with
    | .error e => pure (.fail (.cloud "cannot create resource key" e) r)
    | .ok remote =>
      pure (.ok ⟨details r remote⟩ ((r.setExternalName remote.id).setCondition (.creating now)))

/-- The operations on resource keys, with details of this make. -/
def externalWith (details : Detailing) : External .resourceKey :=
  { external with
    observe := observeWith details
    create := createWith details }

/-- Details that there are come from credentials. -/
theorem extractWith_of_connectionDetailsWith {render : ConnectionDetails.Rendering}
    {r : Managed .resourceKey} {remote : Remote} (h : connectionDetailsWith render r remote ≠ []) :
    ConnectionDetails.extractWith render (declaredTemplates r) remote.credentials =
      .ok (connectionDetailsWith render r remote) := by
  unfold connectionDetailsWith at h ⊢
  cases he : ConnectionDetails.extractWith render (declaredTemplates r) remote.credentials with
  | ok details => rfl
  | error e =>
    rw [he] at h
    exact absurd rfl h

section Told

variable {details : Detailing} {now : String} {r : Managed .resourceKey}
  {log : List (Exchange Outside)}

/-- The details are those of a key that the cloud has answered with, or there are none. -/
def Told (details : Detailing) (r : Managed .resourceKey) (log : List (Exchange Outside))
    (told : Table String) : Prop :=
  told = [] ∨ ∃ key, (∃ x ∈ log, Outside.Yields key x) ∧ told = details r key

/-- A key that is found is the one that the cloud has answered with. -/
theorem found_of_run_fetch {id : String} {found : Except EngineError (Option Remote)}
    (run : Run (fetch id) log found) :
    ∀ key, found = .ok (some key) → ∃ x ∈ log, Outside.Yields key x := by
  rintro key rfl
  obtain ⟨answer, rest, hrest, rfl⟩ := run_ask_iff.mp run
  cases answer with
  | error e =>
    -- what a failure is found to be is no key
    have hfailed : Run (if e.isNotFound = true then Dialogue.done (Except.ok none)
        else .done (.error (EngineError.cloud "cannot get resource key" e))) rest
        (.ok (some key)) := hrest
    split at hfailed
    · cases (run_done_iff.mp hfailed).2
    · cases (run_done_iff.mp hfailed).2
  | ok remote =>
    obtain ⟨rfl, hfound⟩ := run_done_iff.mp hrest
    split at hfound
    · cases hfound
    · cases hfound
      exact ⟨_, List.mem_singleton_self _, .inl ⟨id, rfl⟩⟩

theorem told_observeWith {o : Outcome .resourceKey Observed}
    (run : Run (observeWith details now r) log o) :
    declaredTemplates o.resource = declaredTemplates r ∧
      ∀ observed, o.result = .ok observed → Told details r log observed.connectionDetails := by
  unfold observeWith at run
  cases hid : r.externalName with
  | none =>
    rw [hid] at run
    obtain ⟨rfl, rfl⟩ := run_done_iff.mp run
    refine ⟨rfl, fun observed h => ?_⟩
    cases h
    exact .inl rfl
  | some id =>
    rw [hid] at run
    obtain ⟨first, rest, found, hfetch, hrest, rfl⟩ := Run.bind.mp run
    rcases found with e | _ | key
    · obtain ⟨rfl, rfl⟩ := run_done_iff.mp hrest
      exact ⟨rfl, nofun⟩
    · obtain ⟨rfl, rfl⟩ := run_done_iff.mp hrest
      refine ⟨rfl, fun observed h => ?_⟩
      cases h
      exact .inl rfl
    · obtain ⟨rfl, rfl⟩ := run_done_iff.mp hrest
      refine ⟨rfl, fun observed h => ?_⟩
      cases h
      rw [List.append_nil]
      exact .inr ⟨key, found_of_run_fetch hfetch key rfl, rfl⟩

theorem told_createWith {o : Outcome .resourceKey Created}
    (run : Run (createWith details now r) log o) :
    declaredTemplates o.resource = declaredTemplates r ∧
      ∀ created, o.result = .ok created → Told details r log created.connectionDetails := by
  unfold createWith at run
  cases hrequest : Parameters.request r.spec.forProvider with
  | error e =>
    rw [hrequest] at run
    obtain ⟨rfl, rfl⟩ := run_done_iff.mp run
    exact ⟨rfl, nofun⟩
  | ok request =>
    rw [hrequest] at run
    obtain ⟨answer, rest, hrest, rfl⟩ := run_ask_iff.mp run
    cases answer with
    | error e =>
      obtain ⟨rfl, rfl⟩ := run_done_iff.mp hrest
      exact ⟨rfl, nofun⟩
    | ok key =>
      obtain ⟨rfl, rfl⟩ := run_done_iff.mp hrest
      refine ⟨rfl, fun created h => ?_⟩
      cases h
      exact .inr ⟨key, ⟨_, List.mem_singleton_self _, .inr ⟨request, rfl⟩⟩, rfl⟩

/-- References are resolved without regard to the templates. -/
theorem templates_resolveReferences {o : Outcome .resourceKey Resolved}
    (run : Run (resolveReferences r) log o) :
    declaredTemplates o.resource = declaredTemplates r := by
  obtain ⟨first, rest, found, -, hrest, -⟩ := Run.bind.mp run
  cases found with
  | error e =>
    obtain ⟨-, rfl⟩ := run_done_iff.mp hrest
    rfl
  | ok found =>
    dsimp only at hrest
    split at hrest
    · obtain ⟨-, rfl⟩ := run_done_iff.mp hrest
      rfl
    · obtain ⟨-, rfl⟩ := run_done_iff.mp hrest
      rfl

end Told

end ResourceKey

end ResourceOperator
