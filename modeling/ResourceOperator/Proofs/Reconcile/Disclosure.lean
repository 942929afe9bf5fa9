import ResourceOperator.Proofs.Reconcile.Deletion
import ResourceOperator.Proofs.Reconcile.Discretion

/-!
# What a reconciliation discloses of credentials

Whoever may read a declared key may read its annotations, its spec and its status. Two
reconciliations of a key are compared here that are answered with keys that are alike
(`ResourceKey.Alike`): they differ in nothing but their credentials, and not in the two members of
these that have a further use. All that is written, and all that is asked of the cloud, is the same
in both, but for the secret that holds the connection details (`World.Abreast`).

Reconciliations part where the surroundings make a difference: where they answer a question in ways
that are not alike, or refuse the connection details of one of them only (`World.Apart`). A refusal
is noted in the status, and so tells that there were details to refuse. Up to there the two are
abreast, whatever the templates are and whether they can be rendered or not.

Results:
* `lockstep_carryOut`: each operation on a key, carried out.
* `inseparable_of_discreet`: runs of discreet dialogues are abreast for as long as their
  surroundings make no difference.
* `not_parted`: they make none where they answer alike and accept every secret.
* `credentials_confined`: what observations, creations and reconciliations of a key let go.
-/

namespace ResourceOperator

open Dialogue

namespace World

/-- The answers of the surroundings are alike if those of the cloud are. -/
def Alike : Likeness World
  | .outside q, answer, answer' => Outside.Alike q answer answer'
  | _, answer, answer' => answer = answer'

/-- The question is to write a secret. -/
def writesSecret : WorldCall → Bool
  | .cluster (.applySecret _ _) => true
  | _ => false

/-- What is asked and written, but for secrets. -/
def disclosed (log : List (Exchange World)) : List WorldCall :=
  log.filterMap fun x => if writesSecret x.question then none else some x.question

/-- The logs are the same but for answers that are alike and for the details in secrets. Where a
secret is not written for want of details, it is accepted in the other log. -/
inductive Abreast : List (Exchange World) → List (Exchange World) → Prop where
  | nil : Abreast [] []
  | answered (q : WorldCall) {answer answer' : World.Answer q} {log log' : List (Exchange World)}
      (h : Alike q answer answer') (rest : Abreast log log') :
      Abreast (⟨q, answer⟩ :: log) (⟨q, answer'⟩ :: log')
  | published (secret : SecretReference) (details details' : Table String)
      (answer : Except ReconcileError Unit) {log log' : List (Exchange World)}
      (rest : Abreast log log') :
      Abreast (⟨.cluster (.applySecret secret details), answer⟩ :: log)
        (⟨.cluster (.applySecret secret details'), answer⟩ :: log')
  | first (secret : SecretReference) (details : Table String) {log log' : List (Exchange World)}
      (rest : Abreast log log') :
      Abreast (⟨.cluster (.applySecret secret details), .ok ()⟩ :: log) log'
  | second (secret : SecretReference) (details : Table String) {log log' : List (Exchange World)}
      (rest : Abreast log log') :
      Abreast log (⟨.cluster (.applySecret secret details), .ok ()⟩ :: log')

/-- A secret is refused, with this failure. -/
def Refuses (secret : SecretReference) (e : ReconcileError) (log : List (Exchange World)) : Prop :=
  ∃ details, ⟨.cluster (.applySecret secret details), .error e⟩ ∈ log

/-- The surroundings make a difference at once: they answer the same question in ways that are not
alike, or refuse a secret in one of the logs only. -/
inductive Apart : List (Exchange World) → List (Exchange World) → Prop where
  | answered (q : WorldCall) {answer answer' : World.Answer q} {log log' : List (Exchange World)}
      (h : ¬ Alike q answer answer') : Apart (⟨q, answer⟩ :: log) (⟨q, answer'⟩ :: log')
  | first (secret : SecretReference) (details : Table String) (e : ReconcileError)
      {log log' : List (Exchange World)} (h : ¬ Refuses secret e log') :
      Apart (⟨.cluster (.applySecret secret details), .error e⟩ :: log) log'
  | second (secret : SecretReference) (details : Table String) (e : ReconcileError)
      {log log' : List (Exchange World)} (h : ¬ Refuses secret e log) :
      Apart log (⟨.cluster (.applySecret secret details), .error e⟩ :: log')

/-- The logs are abreast up to where the surroundings make a difference. -/
def Parted (log log' : List (Exchange World)) : Prop :=
  ∃ before after before' after', log = before ++ after ∧ log' = before' ++ after' ∧
    Abreast before before' ∧ Apart after after'

variable {log log' : List (Exchange World)}

theorem Abreast.disclosed_eq (h : Abreast log log') : disclosed log' = disclosed log := by
  induction h with
  | nil => rfl
  | answered q _ _ ih =>
    unfold disclosed at ih ⊢
    rw [List.filterMap_cons, List.filterMap_cons, ih]
  | published _ _ _ _ _ ih => exact ih
  | first _ _ _ ih => exact ih
  | second _ _ _ ih => exact ih

/-! ## Dialogues that are told apart by their surroundings only -/

section Inseparable

variable {α β γ : Type} {post : α → β → Prop}

/-- The logs are abreast and end in the same, unless the surroundings have made a difference. -/
def Together (log log' : List (Exchange World)) (out out' : α) : Prop :=
  (Abreast log log' ∧ out' = out) ∨ Parted log log'

/-- What comes before does not matter where it is abreast. -/
theorem Together.prepend {out out' : α} (h : Together log log' out out')
    (first first' : List (Exchange World))
    (hfirst : ∀ {log log' : List (Exchange World)}, Abreast log log' →
      Abreast (first ++ log) (first' ++ log')) :
    Together (first ++ log) (first' ++ log') out out' := by
  obtain ⟨habreast, rfl⟩ | ⟨before, after, before', after', rfl, rfl, habreast, hapart⟩ := h
  · exact .inl ⟨hfirst habreast, rfl⟩
  · exact .inr ⟨first ++ before, after, first' ++ before', after', (List.append_assoc _ _ _).symm,
      (List.append_assoc _ _ _).symm, hfirst habreast, hapart⟩

theorem Apart.together {out out' : α} (h : Apart log log') : Together log log' out out' :=
  .inr ⟨[], log, [], log', rfl, rfl, .nil, h⟩

/-- Any run of the one and any run of the other keep together. -/
def Inseparable (d d' : Dialogue World α) : Prop :=
  ∀ log log' out out', Run d log out → Run d' log' out' → Together log log' out out'

/-- Dialogues in step that are followed by inseparable ones. -/
theorem inseparable_bind {e : Dialogue World α} {e' : Dialogue World β}
    {f : α → Dialogue World γ} {f' : β → Dialogue World γ} (h : Lockstep Alike post e e')
    (hf : ∀ a b, post a b → Inseparable (f a) (f' b)) :
    Inseparable (e.bind f) (e'.bind f') := by
  induction h with
  | done hpost => exact hf _ _ hpost
  | ask q _ ih =>
    -- the first answers that are not alike part the runs
    intro log log' out out' run run'
    obtain ⟨answer, log, hrun, rfl⟩ := run_ask_iff.mp run
    obtain ⟨answer', log', hrun', rfl⟩ := run_ask_iff.mp run'
    by_cases halike : Alike q answer answer'
    · exact (ih answer answer' halike log log' out out' hrun hrun').prepend [⟨q, answer⟩]
        [⟨q, answer'⟩] fun h => .answered q halike h
    · exact (Apart.answered q halike).together

end Inseparable

/-! ## The publication of details -/

section Publication

/-- A log without secrets refuses none. -/
theorem not_refuses_of_writesSecret (h : ∀ x ∈ log, writesSecret x.question = false)
    (secret : SecretReference) (e : ReconcileError) : ¬ Refuses secret e log := by
  rintro ⟨details, hmem⟩
  cases h _ hmem

theorem not_refuses_cons {secret : SecretReference} {details : Table String} {e : ReconcileError}
    {answer : Except ReconcileError Unit} (ha : answer ≠ .error e) (h : ¬ Refuses secret e log) :
    ¬ Refuses secret e (⟨.cluster (.applySecret secret details), answer⟩ :: log) := by
  rintro ⟨details', hmem⟩
  rcases List.mem_cons.mp hmem with heq | hmem
  · cases heq
    exact ha rfl
  · exact h ⟨details', hmem⟩

variable {α : Type} {rest : Except ReconcileError Unit → Dialogue World α}

/-- What may follow the write of a secret: any two runs of it keep together, and none of them writes
a secret. -/
structure Followed (d : Dialogue World α) : Prop where
  self : Inseparable d d
  quiet : ∀ {log : List (Exchange World)} {out : α}, Run d log out →
    ∀ x ∈ log, writesSecret x.question = false

variable (hrest : ∀ answer, Followed (rest answer)) (secret : SecretReference)

include hrest

/-- Details are published in the first dialogue only. -/
theorem inseparable_first (details : Table String) :
    Inseparable (Dialogue.ask (I := World) (.cluster (.applySecret secret details)) rest)
      (rest (.ok ())) := by
  intro log log' out out' run run'
  obtain ⟨answer, log, hrun, rfl⟩ := run_ask_iff.mp run
  cases answer with
  | ok _ =>
    exact ((hrest _).self _ _ _ _ hrun run').prepend
      [⟨.cluster (.applySecret secret details), .ok ()⟩] [] fun h => .first secret details h
  | error e =>
    have hrefuses := not_refuses_of_writesSecret ((hrest _).quiet run') secret e
    exact (Apart.first secret details e hrefuses).together

/-- Details are published in the second dialogue only. -/
theorem inseparable_second (details : Table String) :
    Inseparable (rest (.ok ()))
      (Dialogue.ask (I := World) (.cluster (.applySecret secret details)) rest) := by
  intro log log' out out' run run'
  obtain ⟨answer, log', hrun, rfl⟩ := run_ask_iff.mp run'
  cases answer with
  | ok _ =>
    exact ((hrest _).self _ _ _ _ run hrun).prepend []
      [⟨.cluster (.applySecret secret details), .ok ()⟩] fun h => .second secret details h
  | error e =>
    have hrefuses := not_refuses_of_writesSecret ((hrest _).quiet run) secret e
    exact (Apart.second secret details e hrefuses).together

/-- Each dialogue publishes details of its own. -/
theorem inseparable_published (details details' : Table String) :
    Inseparable (Dialogue.ask (I := World) (.cluster (.applySecret secret details)) rest)
      (Dialogue.ask (I := World) (.cluster (.applySecret secret details')) rest) := by
  intro log log' out out' run run'
  obtain ⟨answer, log, hrun, rfl⟩ := run_ask_iff.mp run
  obtain ⟨answer', log', hrun', rfl⟩ := run_ask_iff.mp run'
  have hnone : ∀ e, ¬ Refuses secret e log :=
    not_refuses_of_writesSecret ((hrest _).quiet hrun) secret
  have hnone' : ∀ e, ¬ Refuses secret e log' :=
    not_refuses_of_writesSecret ((hrest _).quiet hrun') secret
  by_cases hanswer : answer' = answer
  · subst hanswer
    exact ((hrest _).self _ _ _ _ hrun hrun').prepend
      [⟨.cluster (.applySecret secret details), answer'⟩]
      [⟨.cluster (.applySecret secret details'), answer'⟩] fun h =>
        .published secret details details' answer' h
  · -- one of them is refused, and the other is not refused like that
    cases answer with
    | error e =>
      exact (Apart.first secret details e (not_refuses_cons hanswer (hnone' e))).together
    | ok _ =>
      cases answer' with
      | error e =>
        have haccepted : (.ok () : Except ReconcileError Unit) ≠ .error e := nofun
        exact (Apart.second secret details' e (not_refuses_cons haccepted (hnone e))).together
      | ok _ => exact absurd rfl hanswer

end Publication

/-! ## Operations on keys, carried out -/

theorem lockstep_ofOutside {α β : Type} {post : α → β → Prop} {d : Dialogue Outside α}
    {d' : Dialogue Outside β} (h : Lockstep Outside.Alike post d d') :
    Lockstep Alike post (ofOutside d) (ofOutside d') :=
  h.forward fun q => Lockstep.call (I := World) (.outside q)

/-- Each operation on a key is in step with itself, also with details of another make. -/
theorem lockstep_carryOutWith (details details' : ResourceKey.Detailing) (now : String)
    (q : LifecycleCall .resourceKey) :
    Lockstep Alike (Lifecycle.Alike now q) (carryOut (ResourceKey.externalWith details) now q)
      (carryOut (ResourceKey.externalWith details') now q) := by
  cases q with
  | resolveReferences r => exact lockstep_ofOutside (ResourceKey.lockstep_resolveReferences r)
  | observe r => exact lockstep_ofOutside (ResourceKey.lockstep_observeWith details details' r)
  | create r => exact lockstep_ofOutside (ResourceKey.lockstep_createWith details details' r)
  | update r => exact lockstep_ofOutside (ResourceKey.lockstep_update r)
  | delete r => exact lockstep_ofOutside (ResourceKey.lockstep_delete now r)
  | cluster c => exact Lockstep.call (I := World) (.cluster c)
  | record succeeded => exact Lockstep.call (I := World) (.record succeeded)

theorem lockstep_carryOut (now : String) (q : LifecycleCall .resourceKey) :
    Lockstep Alike (Lifecycle.Alike now q) (carryOut (External.ofKind .resourceKey) now q)
      (carryOut (External.ofKind .resourceKey) now q) :=
  lockstep_carryOutWith ResourceKey.connectionDetails ResourceKey.connectionDetails now q

/-! ## Runs of discreet dialogues -/

section Discreet

variable {α : Type} {now : String}

/-- What is plain writes no secret, whatever the operations are. -/
theorem writesSecret_carryOut {k : Kind} (external : External k) {q : LifecycleCall k}
    (hq : q.Plain) {answer : (Lifecycle k).Answer q}
    (run : Run (carryOut external now q) log answer) :
    ∀ x ∈ log, writesSecret x.question = false := by
  have hoperation : ∀ {β : Type} {d : Dialogue Outside β} {b : β}, Run (ofOutside d) log b →
      ∀ x ∈ log, writesSecret x.question = false := by
    intro β d b run x hx
    obtain ⟨inner, -, rfl⟩ := run_ofOutside_iff.mp run
    obtain ⟨y, -, rfl⟩ := List.mem_map.mp hx
    rfl
  cases q with
  | observe _ | create _ => exact hq.elim
  | resolveReferences r | update r | delete r => exact hoperation run
  | cluster c =>
    obtain ⟨answer, rfl, -⟩ := run_ask_done_iff.mp run
    refine List.forall_mem_singleton.mpr ?_
    cases c with
    | applySecret _ _ => exact hq.elim
    | _ => rfl
  | record succeeded =>
    obtain ⟨answer, rfl, -⟩ := run_ask_done_iff.mp run
    exact List.forall_mem_singleton.mpr rfl

theorem writesSecret_plain {k : Kind} (external : External k) {d : Dialogue (Lifecycle k) α}
    (hd : Reconcile.Plain d) {out : α} (run : Run (d.forward (carryOut external now)) log out) :
    ∀ x ∈ log, writesSecret x.question = false := by
  induction d generalizing log with
  | done a =>
    obtain ⟨rfl, -⟩ := run_done_iff.mp run
    exact fun x hx => absurd hx List.not_mem_nil
  | ask q next ih =>
    obtain ⟨first, rest, answer, hfirst, hrest, rfl⟩ := Run.bind.mp run
    exact List.forall_mem_append.mpr
      ⟨writesSecret_carryOut external hd.1 hfirst, ih answer (hd.2 answer trivial) hrest⟩

theorem inseparable_of_plain {d : Dialogue (Lifecycle .resourceKey) α} (hd : Reconcile.Plain d) :
    Inseparable (d.forward (carryOut (External.ofKind .resourceKey) now))
      (d.forward (carryOut (External.ofKind .resourceKey) now)) := by
  induction d with
  | done a =>
    intro log log' out out' run run'
    obtain ⟨rfl, rfl⟩ := run_done_iff.mp run
    obtain ⟨rfl, rfl⟩ := run_done_iff.mp run'
    exact .inl ⟨.nil, rfl⟩
  | ask q next ih =>
    refine inseparable_bind (lockstep_carryOut now q) fun answer answer' h => ?_
    obtain rfl := hd.1.eq_of_alike h
    exact ih answer (hd.2 answer trivial)

theorem inseparable_publishing (secret : SecretReference) (details details' : Option (Table String))
    {next : Except ReconcileError Unit → Dialogue (Lifecycle .resourceKey) α}
    (hnext : ∀ answer, Reconcile.Plain (next answer)) :
    Inseparable
      ((Reconcile.publishing secret details next).forward
        (carryOut (External.ofKind .resourceKey) now))
      ((Reconcile.publishing secret details' next).forward
        (carryOut (External.ofKind .resourceKey) now)) := by
  have hrest : ∀ answer,
      Followed ((next answer).forward (carryOut (External.ofKind .resourceKey) now)) :=
    fun answer => ⟨inseparable_of_plain (hnext answer), writesSecret_plain _ (hnext answer)⟩
  cases details with
  | none =>
    cases details' with
    | none => exact (hrest (.ok ())).self
    | some details' => exact inseparable_second hrest secret details'
  | some details =>
    cases details' with
    | none => exact inseparable_first hrest secret details
    | some details' => exact inseparable_published hrest secret details details'

theorem inseparable_of_discreet {d d' : Dialogue (Lifecycle .resourceKey) α}
    (h : Reconcile.Discreet now d d') :
    Inseparable (d.forward (carryOut (External.ofKind .resourceKey) now))
      (d'.forward (carryOut (External.ofKind .resourceKey) now)) := by
  induction h with
  | plain hd => exact inseparable_of_plain hd
  | ask q _ ih => exact inseparable_bind (lockstep_carryOut now q) ih
  | publish secret details details' hnext =>
    exact inseparable_publishing secret details details' hnext

end Discreet

/-- Logs do not part where they are answered alike by functions that accept every secret. -/
theorem not_parted {answers answers' : (q : WorldCall) → World.Answer q}
    (halike : ∀ q, Alike q (answers q) (answers' q))
    (haccepts : ∀ secret details, answers (.cluster (.applySecret secret details)) = .ok ())
    (hlog : ∀ x ∈ log, x.answer = answers x.question)
    (hlog' : ∀ x ∈ log', x.answer = answers' x.question) : ¬ Parted log log' := by
  rintro ⟨before, after, before', after', rfl, rfl, -, hapart⟩
  cases hapart with
  | answered q h =>
    have hx := hlog _ (List.mem_append_right _ List.mem_cons_self)
    have hx' := hlog' _ (List.mem_append_right _ List.mem_cons_self)
    dsimp only at hx hx'
    rw [hx, hx'] at h
    exact h (halike q)
  | first secret details e _ =>
    have hx := hlog _ (List.mem_append_right _ List.mem_cons_self)
    cases hx.trans (haccepts secret details)
  | second secret details e _ =>
    have hx := hlog' _ (List.mem_append_right _ List.mem_cons_self)
    have hsame := halike (.cluster (.applySecret secret details))
    cases hx.trans (hsame.symm.trans (haccepts secret details))

end World

namespace ResourceKey

/-- **The credentials of a key reach nothing but its connection details.** For every declared key,
and for all keys in the cloud that differ in nothing but their credentials, and there not in the
admin URL and the role: observing the one and observing the other leaves the same resource, up to the
times that are noted, and yields the same but for the connection details. So does a creation that is
answered with the one and with the other. And any two runs of a reconciliation ask and write the
same but for the secret, and come to the same, unless the surroundings themselves make a difference.
All this is so whether the templates can be rendered or not. -/
theorem credentials_confined :
    (∀ (r : Managed .resourceKey) (now now' : String)
      (answers answers' : (q : OutsideCall) → Outside.Answer q),
      (∀ q, Outside.Alike q (answers q) (answers' q)) →
        Outcome.Alike now now' Observed.Alike ((observe now r).run answers)
          ((observe now' r).run answers')) ∧
    (∀ (r : Managed .resourceKey) (now now' : String)
      (answers answers' : (q : OutsideCall) → Outside.Answer q),
      (∀ q, Outside.Alike q (answers q) (answers' q)) →
        Outcome.Alike now now' Created.Alike ((create now r).run answers)
          ((create now' r).run answers')) ∧
    (∀ (context : Reconcile.Context) (r : Managed .resourceKey) (log log' : List (Exchange World))
      (out out' : Except ReconcileError Action),
      Run (World.reconcile context r) log out → Run (World.reconcile context r) log' out' →
        (World.Abreast log log' ∧ World.disclosed log' = World.disclosed log ∧ out' = out) ∨
          World.Parted log log') := by
  refine ⟨fun r now now' answers answers' h => (lockstep_observe r).run h,
    fun r now now' answers answers' h => (lockstep_create r).run h,
    fun context r log log' out out' run run' => ?_⟩
  have hrun : World.Inseparable (World.reconcile context r) (World.reconcile context r) :=
    World.inseparable_of_discreet (Reconcile.discreet_run context r)
  obtain ⟨habreast, hout⟩ | hparted := hrun log log' out out' run run'
  · exact .inl ⟨habreast, habreast.disclosed_eq, hout⟩
  · exact .inr hparted

/-- A key whose secret is to hold the password among its credentials. -/
def templatedKey : Managed .resourceKey where
  metadata :=
    { Metadata.empty with
      annotations := some [(Metadata.externalNameKey, "k-1")]
      finalizers := some [Cluster.finalizer]
      name := some "key" }
  spec :=
    ⟨⟨"key", some "crn:kafka", none, none, none, none⟩, .delete, some ⟨"conn", "apps"⟩,
      some [("password", "\x7b\x7b password \x7d\x7d")]⟩
  status := none

/-- The key in the cloud, with these credentials. -/
def issuedKey (credentials : Json) : Remote :=
  ⟨"k-1", "", "", "", "key", "", "", "", .active, false, "", none, credentials⟩

/-- The key with a password. -/
def passwordKey : Remote :=
  issuedKey (.object [("password", .string "p1")])

/-- The key without one, for which the template cannot be rendered. -/
def bareKey : Remote :=
  issuedKey (.object [])

/-- The status that is published of either. -/
def issuedStatus : Status .resourceKey :=
  ⟨some ⟨"k-1", "", "", "", "", "", "", "active", false, none, none⟩,
    [.available "t0", .reconcileSuccess "t0"]⟩

/-- The password is published, and the status. -/
def passwordRun : List (Exchange World) :=
  [⟨.outside (.cloud (.controller (.getKey "k-1"))), .ok passwordKey⟩,
    ⟨.cluster (.applySecret ⟨"conn", "apps"⟩ [("password", "p1")]), .ok ()⟩,
    ⟨.cluster (.patchStatus "key" issuedStatus.encode), .ok ()⟩, ⟨.record true, ()⟩]

/-- Nothing is published but the status. -/
def bareRun : List (Exchange World) :=
  [⟨.outside (.cloud (.controller (.getKey "k-1"))), .ok bareKey⟩,
    ⟨.cluster (.patchStatus "key" issuedStatus.encode), .ok ()⟩, ⟨.record true, ()⟩]

/-- Answers with a key, and with failures to all that is not about a key. -/
def answering (key : Remote) : (q : OutsideCall) → Outside.Answer q
  | .cloud (.controller (.getKey _)) => .ok key
  | .cloud (.controller (.createKey _)) => .ok key
  | .cloud call => (.error .http : Except Cloud.Failure call.Result)
  | .lookup k call => (.error (.notFound "") : Except EngineError (call.Result k))

/-- Answers with a key, and accepts every write. -/
def surroundings (key : Remote) : (q : WorldCall) → World.Answer q
  | .outside q => answering key q
  | .cluster _ => .ok ()
  | .record _ => ()

/-- The declared key once either key has been seen. -/
def seenKey : Managed .resourceKey :=
  { templatedKey with
    status := some
      ⟨some ⟨"k-1", "", "", "", "", "", "", "active", false, none, none⟩, [.available "t0"]⟩ }

theorem alike_bareKey : Alike passwordKey bareKey :=
  ⟨rfl, rfl, rfl⟩

theorem alike_answering {key key' : Remote} (h : Alike key key') (q : OutsideCall) :
    Outside.Alike q (answering key q) (answering key' q) := by
  cases q with
  | lookup k call => rfl
  | cloud call =>
    cases call with
    | controller call =>
      cases call with
      | getKey _ | createKey _ => exact .ok h
      | updateKey _ _ => exact .error _
      | _ => rfl
    | _ => rfl

theorem run_resolve_templatedKey :
    Run (World.carryOut (External.ofKind .resourceKey) "t0" (.resolveReferences templatedKey)) []
      ⟨.ok ⟨false, []⟩, templatedKey⟩ :=
  .done _

theorem run_passwordRun :
    Run (World.reconcile ⟨300, 30, "t0"⟩ templatedKey) passwordRun (.ok (.requeue 300)) := by
  have hdetails : connectionDetails templatedKey passwordKey = [("password", "p1")] := by
    decide +kernel
  have observed : Run (World.carryOut (External.ofKind .resourceKey) "t0" (.observe templatedKey))
      [⟨.outside (.cloud (.controller (.getKey "k-1"))), .ok passwordKey⟩]
      ⟨.ok ⟨true, true, false, [("password", "p1")]⟩, seenKey⟩ := by
    rw [← hdetails]
    exact .ask _ _ (.done _)
  refine Run.forward_ask (I := Lifecycle .resourceKey) (q := .resolveReferences templatedKey)
    run_resolve_templatedKey ?_
  refine Run.forward_ask (I := Lifecycle .resourceKey) (q := .observe templatedKey) observed ?_
  exact .ask _ _ (.ask _ _ (.ask _ _ (.done _)))

theorem run_bareRun :
    Run (World.reconcile ⟨300, 30, "t0"⟩ templatedKey) bareRun (.ok (.requeue 300)) := by
  have hdetails : connectionDetails templatedKey bareKey = [] := by
    decide +kernel
  have observed : Run (World.carryOut (External.ofKind .resourceKey) "t0" (.observe templatedKey))
      [⟨.outside (.cloud (.controller (.getKey "k-1"))), .ok bareKey⟩]
      ⟨.ok ⟨true, true, false, []⟩, seenKey⟩ := by
    rw [← hdetails]
    exact .ask _ _ (.done _)
  refine Run.forward_ask (I := Lifecycle .resourceKey) (q := .resolveReferences templatedKey)
    run_resolve_templatedKey ?_
  refine Run.forward_ask (I := Lifecycle .resourceKey) (q := .observe templatedKey) observed ?_
  exact .ask _ _ (.ask _ _ (.done _))

theorem not_parted_passwordRun : ¬ World.Parted passwordRun bareRun := by
  have halike : ∀ q, World.Alike q (surroundings passwordKey q) (surroundings bareKey q) := by
    intro q
    cases q with
    | outside q => exact alike_answering alike_bareKey q
    | cluster _ | record _ => rfl
  refine World.not_parted halike (fun _ _ => rfl) ?_ ?_
  · exact List.forall_mem_cons.mpr ⟨rfl, List.forall_mem_cons.mpr ⟨rfl,
      List.forall_mem_cons.mpr ⟨rfl, List.forall_mem_singleton.mpr rfl⟩⟩⟩
  · exact List.forall_mem_cons.mpr ⟨rfl, List.forall_mem_cons.mpr ⟨rfl,
      List.forall_mem_singleton.mpr rfl⟩⟩

/-- **Keys of which only one has a password are told apart by the secret alone**, also at different
times. -/
theorem templatedKey_confined :
    Outcome.Alike "t0" "t1" Observed.Alike ((observe "t0" templatedKey).run (answering passwordKey))
        ((observe "t1" templatedKey).run (answering bareKey)) ∧
      Outcome.Alike "t0" "t1" Created.Alike ((create "t0" templatedKey).run (answering passwordKey))
        ((create "t1" templatedKey).run (answering bareKey)) ∧
      World.Abreast passwordRun bareRun ∧
      World.disclosed bareRun = World.disclosed passwordRun := by
  obtain ⟨observed, created, runs⟩ := credentials_confined
  obtain ⟨habreast, hdisclosed, -⟩ :=
    (runs _ templatedKey _ _ _ _ run_passwordRun run_bareRun).resolve_right not_parted_passwordRun
  exact ⟨observed _ _ _ _ _ (alike_answering alike_bareKey),
    created _ _ _ _ _ (alike_answering alike_bareKey), habreast, hdisclosed⟩

end ResourceKey

end ResourceOperator
