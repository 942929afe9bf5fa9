import ResourceOperator.Proofs.External.Settling
import ResourceOperator.Proofs.Reconcile.Persistence

/-!
# What resolving references leaves

Three kinds take a field from other declared objects. Resolving their references comes to what that
field resolves to (`Taking.conclude`): a failure, a field that waits, or a value with the reference
that has led to it, which are then taken over. Nothing else of the resource is written, and it is
said to have changed exactly where it has.

Once taken over, a field is looked up another way. A selector has become a reference, and a resource
name or a URL has become an id. Both ways lead to the same value, so that resolving again leaves the
resource as it is, as long as what is listed is found by its name.

Results:
* `Taking.run_resolve_iff`: the runs of a resolution are those of its field.
* `Takes.changed_iff`: what is taken over says that it has changed exactly where it has.
* `references_taken_over_once`: what a resolution leaves, for every kind, and that a second one
  changes nothing.
* `selectingSubnet_resolved_once`: a subnet whose network was given by resource name and is now
  selected.
-/

namespace ResourceOperator

open Dialogue Outside

variable {k j : Kind} {t : Taking k j}

/-! ## What a resolution asks and comes to -/

/-- A lookup is one of the exchanges with the outside. -/
def Outside.onLookup (x : Exchange (Lookup k)) : Exchange Outside :=
  ⟨.lookup k x.question, x.answer⟩

/-- What is exchanged by a dialogue about declared objects, and how it ends. -/
theorem Outside.run_ofLookup_iff {α : Type} {d : Dialogue (Lookup k) α}
    {log : List (Exchange Outside)} {a : α} :
    Run (ofLookup d) log a ↔ ∃ looked, Run d looked a ∧ log = looked.map onLookup := by
  have hpass : ∀ (x : Exchange (Lookup k)) (log : List (Exchange Outside)),
      Run (Dialogue.call (I := Outside) (.lookup k x.question)) log x.answer ↔
        log = [onLookup x] := fun x log => run_call_iff
  exact run_forward_iff.trans (exists_congr fun _ => and_congr_right fun _ => answering_map hpass)

namespace Taking

variable {r : Managed k} {log : List (Exchange Outside)} {out : Outcome k Resolved}

/-- What the resource comes to, by what its field resolves to. -/
def conclude (t : Taking k j) (r : Managed k) :
    Except EngineError Resolution → Outcome k Resolved
  | .error e => .fail e r
  | .ok found =>
    if found.isPending then .ok ⟨false, [(t.request r.spec.forProvider).field]⟩ r
    else .ok ⟨(t.apply r.spec.forProvider found).changed, []⟩
      (r.setParameters (t.apply r.spec.forProvider found).value)

theorem resolve_eq (t : Taking k j) (r : Managed k) :
    t.resolve r = (ofLookup (Resolution.resolve (t.request r.spec.forProvider))).bind fun result =>
      .done (t.conclude r result) := by
  unfold resolve Resolution.takeOver
  refine congrArg (Dialogue.bind _) (funext fun result => ?_)
  cases result with
  | error e => rfl
  | ok found => exact (apply_ite Dialogue.done (found.isPending = true) _ _).symm

/-- A run of a resolution is a run of its field. -/
theorem run_resolve_iff :
    Run (t.resolve r) log out ↔ ∃ looked result,
      Run (Resolution.resolve (t.request r.spec.forProvider)) looked result ∧
      log = looked.map onLookup ∧ out = t.conclude r result := by
  rw [resolve_eq, Run.bind]
  constructor
  · rintro ⟨first, rest, result, hfirst, hrest, rfl⟩
    obtain ⟨looked, hlooked, rfl⟩ := run_ofLookup_iff.mp hfirst
    obtain ⟨rfl, rfl⟩ := run_done_iff.mp hrest
    exact ⟨looked, result, hlooked, List.append_nil _, rfl⟩
  · rintro ⟨looked, result, hlooked, rfl, rfl⟩
    exact ⟨_, [], result, run_ofLookup_iff.mpr ⟨looked, hlooked, rfl⟩, .done _,
      (List.append_nil _).symm⟩

end Taking

/-! ## The kinds that take a field -/

/-- The kinds that take a field from objects of another kind, and how they take it. -/
inductive Takes : (k j : Kind) → Taking k j → Prop where
  | subnet : Takes .subnet .vpc Subnet.taking
  | resourceKey : Takes .resourceKey .resourceInstance ResourceKey.taking
  | topic : Takes .topic .resourceKey Topic.taking

namespace Takes

theorem resolveReferences_eq (h : Takes k j t) (r : Managed k) :
    (External.ofKind k).resolveReferences r = t.resolve r := by
  cases h <;> rfl

theorem referenced_eq (h : Takes k j t) : k.referenced = some j := by
  cases h <;> rfl

/-- What is taken over is a change where the value or the reference differs from what there is. -/
theorem changed_eq (h : Takes k j t) (p : Parameters k) (found : Resolution) :
    (t.apply p found).changed =
      (found.value != (t.request p).current || found.reference != (t.request p).reference) := by
  cases h <;> rfl

/-- What is taken over says that it has changed exactly where it has. -/
theorem changed_iff (h : Takes k j t) (p : Parameters k) (found : Resolution) :
    (t.apply p found).changed = true ↔ (t.apply p found).value ≠ p := by
  constructor
  · intro hchanged hsame
    -- the field has what was found, since nothing was written
    have htaken := t.taken p found
    rw [hsame] at htaken
    have hvalue : (t.request p).current = found.value :=
      congrArg Resolution.Request.current htaken
    have hreference : (t.request p).reference = found.reference :=
      congrArg Resolution.Request.reference htaken
    rw [h.changed_eq, hvalue, hreference] at hchanged
    simp at hchanged
  · intro hne
    cases hchanged : (t.apply p found).changed with
    | true => rfl
    | false =>
      -- what was found is what there is, and that is kept
      rw [h.changed_eq] at hchanged
      obtain ⟨value, reference⟩ := found
      have hfound : value = (t.request p).current ∧ reference = (t.request p).reference := by
        simpa using hchanged
      obtain ⟨rfl, rfl⟩ := hfound
      rw [t.kept] at hne
      exact absurd rfl hne

end Takes

/-! ## The theorem -/

namespace Managed

variable {r : Managed k} {q : Parameters k}

theorem setParameters_eq_iff : r.setParameters q = r ↔ q = r.spec.forProvider := by
  constructor
  · intro h
    exact congrArg (fun left : Managed k => left.spec.forProvider) h
  · rintro rfl
    rfl

end Managed

/-- How a resolution leaves a resource. -/
inductive TakenOver (r : Managed k) : Outcome k Resolved → Prop where
  /-- It fails, and nothing is written. -/
  | failed (e : EngineError) : TakenOver r (.fail e r)
  /-- A field waits, and nothing is written. -/
  | waiting {pending : List String} (hpending : pending ≠ []) :
    TakenOver r (.ok ⟨false, pending⟩ r)
  /-- The field and its reference are written, and it is said whether that has changed anything. -/
  | taken {changed : Bool} {q : Parameters k} (htook : Parameters.Took k r.spec.forProvider q)
    (hchanged : changed = true ↔ r.setParameters q ≠ r) :
    TakenOver r (.ok ⟨changed, []⟩ (r.setParameters q))

/-- A kind without references has nothing to take over. -/
theorem takenOver_nothing {r : Managed k} (htook : Parameters.Took k r.spec.forProvider
    r.spec.forProvider) : TakenOver r (.ok ⟨false, []⟩ r) :=
  .taken (q := r.spec.forProvider) htook (by simp [Managed.setParameters_eq_iff])

theorem Takes.takenOver (h : Takes k j t) {r : Managed k} {log : List (Exchange Outside)}
    {out : Outcome k Resolved} (run : Run ((External.ofKind k).resolveReferences r) log out) :
    TakenOver r out := by
  have hrun := run
  rw [h.resolveReferences_eq] at run
  obtain ⟨looked, result, -, -, rfl⟩ := Taking.run_resolve_iff.mp run
  cases result with
  | error e => exact .failed e
  | ok found =>
    cases hp : found.isPending with
    | true =>
      rw [Taking.conclude, if_pos hp]
      exact .waiting (List.cons_ne_nil _ _)
    | false =>
      rw [Taking.conclude, if_neg (Bool.eq_false_iff.mp hp)] at hrun ⊢
      obtain ⟨q, hq, htook⟩ := took_of_run hrun
      have hvalue : (t.apply r.spec.forProvider found).value = q :=
        congrArg (fun left : Managed k => left.spec.forProvider) hq
      refine .taken (hvalue ▸ htook) ?_
      rw [h.changed_iff, ne_eq, ne_eq, Managed.setParameters_eq_iff]

/-- A resolution of any kind leaves the resource as it was, or takes over one field. -/
theorem takenOver_of_run {r : Managed k} {log : List (Exchange Outside)} {out : Outcome k Resolved}
    (run : Run ((External.ofKind k).resolveReferences r) log out) : TakenOver r out := by
  cases k with
  | vpc =>
    obtain ⟨-, rfl⟩ := run_done_iff.mp run
    exact takenOver_nothing rfl
  | resourceInstance =>
    obtain ⟨-, rfl⟩ := run_done_iff.mp run
    exact takenOver_nothing rfl
  | subnet => exact Takes.subnet.takenOver run
  | resourceKey => exact Takes.resourceKey.takenOver run
  | topic => exact Takes.topic.takenOver run

/-- What is listed of the objects that a kind refers to is found by its name. -/
def Outside.Answers.NamedFor (answers : Answers) (k : Kind) : Prop :=
  ∀ j, k.referenced = some j →
    Resolution.Named fun q : (Lookup j).Question => answers (.lookup j q)

theorem Takes.resolved_again (h : Takes k j t) {answers : Answers} (hn : answers.NamedFor k)
    {r left : Managed k} {resolved : Resolved}
    (hr : ((External.ofKind k).resolveReferences r).run answers = .ok resolved left)
    (hp : resolved.pending = []) :
    ((External.ofKind k).resolveReferences left).run answers = .ok ⟨false, []⟩ left := by
  rw [h.resolveReferences_eq] at hr ⊢
  exact t.resolve_again (hn j h.referenced_eq) hr hp rfl

/-- **References are taken over once.** However its references are answered, a resolution that fails
or waits leaves the resource as it is, and another one writes nothing but the field that it resolves
and its reference, and says that it has changed the resource exactly where it has. Where what is
listed is found by its name, resolving again what was resolved changes nothing, and waits for
nothing. -/
theorem references_taken_over_once (k : Kind) :
    (∀ (r : Managed k) (log : List (Exchange Outside)) (out : Outcome k Resolved),
      Run ((External.ofKind k).resolveReferences r) log out → TakenOver r out) ∧
    ∀ answers : Answers, answers.NamedFor k → ∀ (r left : Managed k) (resolved : Resolved),
      ((External.ofKind k).resolveReferences r).run answers = .ok resolved left →
      resolved.pending = [] →
      ((External.ofKind k).resolveReferences left).run answers = .ok ⟨false, []⟩ left := by
  refine ⟨fun r log out run => takenOver_of_run run, fun answers hn r left resolved hr hp => ?_⟩
  cases k with
  | vpc => rfl
  | resourceInstance => rfl
  | subnet => exact Takes.subnet.resolved_again hn hr hp
  | resourceKey => exact Takes.resourceKey.resolved_again hn hr hp
  | topic => exact Takes.topic.resolved_again hn hr hp

/-- The network that a subnet selects is there, by its labels and by its name. -/
def networkAnswers : Answers
  | .cloud _ => .error (.notFound "")
  | .lookup .vpc .list => .ok [selectedNetwork]
  | .lookup .vpc (.get _) => .ok selectedNetwork
  | .lookup _ _ => .error (.notFound "")

theorem namedFor_networkAnswers : networkAnswers.NamedFor .subnet := by
  rintro _ ⟨⟩ objects h o ho
  cases h
  cases List.mem_singleton.mp ho
  rfl

/-- The network by resource name gives way to the id of the selected one, which is then found by its
reference and stays. -/
theorem selectingSubnet_resolved_once :
    TakenOver selectingSubnet (.ok ⟨true, []⟩ resolvedSubnet) ∧
    ((External.ofKind .subnet).resolveReferences resolvedSubnet).run networkAnswers =
      .ok ⟨false, []⟩ resolvedSubnet := by
  have run : Run ((External.ofKind .subnet).resolveReferences selectingSubnet)
      [⟨.lookup .vpc .list, .ok [selectedNetwork]⟩] (.ok ⟨true, []⟩ resolvedSubnet) :=
    .ask _ _ (.done _)
  constructor
  · exact (references_taken_over_once .subnet).1 _ _ _ run
  · exact (references_taken_over_once .subnet).2 networkAnswers namedFor_networkAnswers
      selectingSubnet resolvedSubnet ⟨true, []⟩ rfl rfl

end ResourceOperator
