import ResourceOperator.Proofs.Reconcile.Disclosure

/-!
# What a reconciliation publishes of a key

The secret of a key with templates is written with every key of the templates or not written at all.
What was rendered up to a template that fails goes nowhere: an observation or a creation then tells
of no details, and where there are no details nothing is published. So a secret that was written
before keeps what it holds.

A reconciliation with operations of any make is `reconcileWith`, and here these are the operations
on keys with templates that are rendered in any way (`ResourceKey.externalRendering`). Two of them
that differ in how they render are compared exchange by exchange. As long as the cluster accepts
what is written, they exchange the same but for secrets (`World.besideSecrets`).

Results:
* `backed_run`: the details that a reconciliation publishes are those of a key that the cloud has
  answered with in the same reconciliation.
* `mirrors_of_discreet`: a run with the one rendering comes with a run with the other.
* `World.together_of_mirrors`: so any two runs are the same but for secrets, up to where the outside
  answers differently.
* `secret_whole_or_untouched`: the secret is complete or untouched, and nothing else depends on
  which.
-/

namespace ResourceOperator

open Dialogue ResourceOperator.Task

variable {α β γ : Type}

/-! ## Operations of any make -/

namespace World

/-- Reconciles a resource with these operations. -/
def reconcileWith {k : Kind} (external : External k) (context : Reconcile.Context)
    (r : Managed k) : Dialogue World (Except ReconcileError Action) :=
  (Reconcile.run context r).forward (carryOut external context.now)

/-- The cloud has answered with this key. -/
def Seen (key : ResourceKey.Remote) (log : List (Exchange World)) : Prop :=
  ∃ x, Outside.Yields key x ∧ ofExchange x ∈ log

/-- What an operation comes to after its exchanges, where these may be any. -/
theorem ensures_ofOutside_runs {allowed : List (Exchange World) → WorldCall → Prop}
    (hall : ∀ past call, allowed past (.outside call)) {post : List (Exchange World) → α → Prop}
    {d : Dialogue Outside α} {past : List (Exchange World)}
    (h : ∀ log a, Run d log a → post (past ++ log.map ofExchange) a) :
    (ofOutside d).Ensures (watch allowed) post past := by
  induction d generalizing past with
  | done a =>
    have hend := h [] a (.done a)
    rwa [List.map_nil, List.append_nil] at hend
  | ask q next ih =>
    refine ⟨hall past q, fun answer => ih answer fun log a run => ?_⟩
    have hlog := h _ a (.ask q answer run)
    rwa [List.map_cons, ← List.singleton_append, ← List.append_assoc] at hlog

end World

namespace ResourceKey

/-- The operations on keys, with templates that are rendered in this way. -/
def externalRendering (render : ConnectionDetails.Rendering) : External .resourceKey :=
  externalWith (connectionDetailsWith render)

theorem externalRendering_render :
    externalRendering Template.render = External.ofKind .resourceKey := rfl

/-! ## Published details -/

section Backed

variable {render : ConnectionDetails.Rendering} {templates details : Table String}
  {past : List (Exchange World)} {r : Managed .resourceKey} {now : String}

/-- The details come from the credentials of a key that the cloud has answered with. -/
def Drawn (render : ConnectionDetails.Rendering) (templates : Table String)
    (past : List (Exchange World)) (details : Table String) : Prop :=
  ∃ key, World.Seen key past ∧
    ConnectionDetails.extractWith render templates key.credentials = .ok details

/-- Where a secret is written, its details are drawn from what came before. -/
def Backed (render : ConnectionDetails.Rendering) (templates : Table String)
    (past : List (Exchange World)) : WorldCall → Prop
  | .cluster (.applySecret _ details) => Drawn render templates past details
  | _ => True

/-- The rule for a reconciliation whose published details are drawn from what came before. -/
abbrev backing (render : ConnectionDetails.Rendering) (templates : Table String) (now : String) :
    Rule (Lifecycle .resourceKey) (List (Exchange World)) :=
  Rule.through (watch (Backed render templates)) (World.carryOut (externalRendering render) now)

theorem monotone_backing : (backing render templates now).Monotone :=
  Rule.Monotone.through (monotone_watch _) _

/-- There are no details, or they are drawn from what came before. -/
def Publishable (render : ConnectionDetails.Rendering) (templates : Table String)
    (past : List (Exchange World)) (details : Table String) : Prop :=
  details = [] ∨ Drawn render templates past details

theorem Publishable.append (h : Publishable render templates past details)
    (later : List (Exchange World)) : Publishable render templates (past ++ later) details := by
  obtain h | ⟨key, ⟨x, hx, hmem⟩, hdetails⟩ := h
  · exact .inl h
  · exact .inr ⟨key, ⟨x, hx, List.mem_append_left later hmem⟩, hdetails⟩

/-- What an operation tells of may be published. -/
theorem Told.publishable {log : List (Exchange Outside)}
    (hr : declaredTemplates r = templates)
    (h : Told (connectionDetailsWith render) r log details) :
    Publishable render templates (past ++ log.map World.ofExchange) details := by
  obtain h | ⟨key, ⟨x, hmem, hx⟩, rfl⟩ := h
  · exact .inl h
  · by_cases hnone : connectionDetailsWith render r key = []
    · exact .inl hnone
    · have hseen := List.mem_append_right past (List.mem_map_of_mem (f := World.ofExchange) hmem)
      exact .inr ⟨key, ⟨x, hx, hseen⟩, hr ▸ extractWith_of_connectionDetailsWith hnone⟩

/-- What has nothing to do with details publishes none. -/
theorem backed_of_plain {d : Dialogue (Lifecycle .resourceKey) α} (hd : Reconcile.Plain d) :
    d.Ensures (backing render templates now) anyEnd past := by
  induction d generalizing past with
  | done a => trivial
  | ask q next ih =>
    have hnext : ∀ past answer, (next answer).Ensures (backing render templates now) anyEnd past :=
      fun past answer => ih answer (hd.2 answer trivial)
    have hq : q.Plain := hd.1
    cases q with
    | observe _ | create _ => exact hq.elim
    | resolveReferences _ | update _ | delete _ =>
      exact World.ensures_ofOutside_runs (fun _ _ => trivial) fun log answer _ => hnext _ answer
    | cluster c =>
      refine ⟨?_, fun answer => hnext _ answer⟩
      cases c with
      | applySecret _ _ => exact hq.elim
      | _ => trivial
    | record succeeded => exact ⟨trivial, fun answer => hnext _ answer⟩

theorem backed_of_plainTask {t : Task .resourceKey α} (ht : Task.Plain t) :
    (t r).Ensures (backing render templates now) anyEnd past :=
  backed_of_plain (ht () r trivial)

/-! ### The parts of a reconciliation -/

/-- A write that publishes nothing keeps what later exchanges cannot undo. -/
theorem maintains_plainWrite {inv : List (Exchange World) → Managed .resourceKey → Prop}
    {call : Managed .resourceKey → Option Cluster.Call}
    (hcall : ∀ r c, call r = some c → LifecycleCall.Plain (k := .resourceKey) (.cluster c))
    (hinv : ∀ past later r, inv past r → inv (past ++ later) r) :
    Maintains (backing render templates now) inv (Task.write call) := by
  refine maintains_write fun past r c h e => ⟨?_, fun _ => hinv past _ r h⟩
  have hplain := hcall r c e
  cases c with
  | applySecret _ _ => exact hplain.elim
  | _ => trivial

theorem maintains_storeDesired {inv : List (Exchange World) → Managed .resourceKey → Prop}
    (hinv : ∀ past later r, inv past r → inv (past ++ later) r) (due : Bool) (name : String) :
    Maintains (backing render templates now) inv (when due (Reconcile.storeDesired name)) := by
  refine maintains_when due (maintains_plainWrite (fun r c e => ?_) hinv)
  cases e
  trivial

variable (context : Reconcile.Context) (name : String)

/-- Desired state is stored, and details are published that may be. -/
theorem backed_publication (due : Bool) {rest : Unit → Task .resourceKey Action}
    (hrest : ∀ u, Task.Plain (rest u)) (hd : Publishable render templates past details) :
    ((when due (Reconcile.storeDesired name) >>= fun _ =>
      Reconcile.publishDetails details >>= rest) r).Ensures (backing render templates now) anyEnd
        past := by
  have hstore : Maintains (backing render templates now)
      (fun past _ => Publishable render templates past details)
      (when due (Reconcile.storeDesired name)) :=
    maintains_storeDesired (fun _ later _ h => h.append later) due name
  rw [Task.ensures_bind]
  refine (hstore past r hd).mono monotone_backing fun past out hd => ?_
  obtain ⟨e | _, left⟩ := out
  · trivial
  refine ensures_bind_anyEnd monotone_backing ?_ fun past u left => backed_of_plainTask (hrest u)
  rw [Reconcile.publishDetails, ensures_write]
  cases hdetails : details.isEmpty with
  | true => trivial
  | false =>
    cases left.connectionSecret with
    | none => trivial
    | some secret =>
      have hne : details ≠ [] := List.isEmpty_eq_false_iff.mp hdetails
      exact ⟨hd.resolve_left hne, fun _ => trivial⟩

theorem backed_syncAbsent (hr : declaredTemplates r = templates) :
    (Reconcile.syncAbsent context name r).Ensures (backing render templates now) anyEnd past := by
  rw [Reconcile.syncAbsent, Task.ensures_bind, ensures_create]
  refine World.ensures_ofOutside_runs (fun _ _ => trivial) fun log o run => ?_
  obtain ⟨e | created, left⟩ := o
  · trivial
  · have htold := (told_createWith run).2 created rfl
    exact backed_publication name true (fun _ => Reconcile.plain_noted _ _)
      (htold.publishable hr)

theorem backed_sync (hr : declaredTemplates r = templates) :
    (Reconcile.sync context name r).Ensures (backing render templates now) anyEnd past := by
  have hm : (backing render templates now).Monotone := monotone_backing
  rw [Reconcile.sync_eq, Task.ensures_bind, ensures_resolveReferences]
  refine World.ensures_ofOutside_runs (fun _ _ => trivial) fun log o run => ?_
  have hfound := templates_resolveReferences run
  obtain ⟨e | resolved, found⟩ := o
  · trivial
  rw [settled_ok, Task.ensures_bind]
  -- up to the observation, the templates are what has to be kept; from there on, what it told
  have hstore : Maintains (backing render templates now)
      (fun _ r => declaredTemplates r = templates)
      (when resolved.changed (Reconcile.storeDesired name)) :=
    maintains_storeDesired (fun _ _ _ h => h) resolved.changed name
  refine (hstore _ found (hfound.trans hr)).mono hm fun past out hr => ?_
  obtain ⟨e | _, found⟩ := out
  · trivial
  rw [after_ok]
  cases resolved.pending.isEmpty with
  | false => exact backed_of_plainTask (Reconcile.plain_noted _ _)
  | true =>
    rw [if_pos rfl, Task.ensures_bind, ensures_observe]
    refine World.ensures_ofOutside_runs (fun _ _ => trivial) fun log o run => ?_
    obtain ⟨hseen, htold⟩ := told_observeWith run
    obtain ⟨e | observed, seen⟩ := o
    · trivial
    rw [settled_ok]
    cases observed.present with
    | true =>
      rw [if_pos rfl, Reconcile.syncPresent_eq]
      exact backed_publication name _ (fun _ => Reconcile.plain_adjust _ _ _)
        ((htold observed rfl).publishable hr)
    | false => exact backed_syncAbsent context name (hseen.trans hr)

theorem backed_finalize :
    (Reconcile.finalize context name r).Ensures (backing render templates now) anyEnd past := by
  refine ensures_bind_anyEnd monotone_backing (ensures_read.mpr trivial) fun past policy r => ?_
  cases policy with
  | orphan => exact backed_of_plainTask (Reconcile.plain_release name)
  | delete =>
    refine ensures_bind_anyEnd monotone_backing ?_ fun past observed r => ?_
    · exact World.ensures_ofOutside_runs (fun _ _ => trivial) fun _ _ _ => trivial
    · cases observed.present with
      | true => exact backed_of_plainTask (Reconcile.plain_tearDown context name)
      | false => exact backed_of_plainTask (Reconcile.plain_release name)

theorem backed_reconcileDeleted :
    (Reconcile.reconcileDeleted context name r).Ensures (backing render templates now) anyEnd
      past := by
  refine ensures_bind_anyEnd monotone_backing (ensures_read.mpr trivial) fun past kept r => ?_
  cases kept with
  | false => trivial
  | true =>
    refine ensures_bind_anyEnd monotone_backing (ensures_attempt.mpr (backed_finalize context name))
      fun past result r => ?_
    exact backed_of_plainTask (Reconcile.plain_finalized context name result)

theorem backed_reconcileWanted (hr : declaredTemplates r = templates) :
    (Reconcile.reconcileWanted context name r).Ensures (backing render templates now) anyEnd
      past := by
  have hm : (backing render templates now).Monotone := monotone_backing
  rw [Reconcile.reconcileWanted_eq, Task.ensures_bind, ensures_read, after_ok, Task.ensures_bind]
  have htake : Maintains (backing render templates now)
      (fun _ r => declaredTemplates r = templates)
      (when (!Reconcile.hasFinalizer r) (Task.write fun _ => some (.addFinalizer name))) := by
    refine maintains_when _ (maintains_plainWrite (fun _ _ e => ?_) fun _ _ _ h => h)
    cases e
    trivial
  refine (htake _ r hr).mono hm fun past out hr => ?_
  obtain ⟨e | _, left⟩ := out
  · trivial
  rw [after_ok]
  refine ensures_bind_anyEnd hm (ensures_attempt.mpr (backed_sync context name hr))
    fun past result r => ?_
  exact backed_of_plainTask (Reconcile.plain_synced context name result)

/-- **What is published is drawn** from a key that the cloud has answered with before. -/
theorem backed_run (hr : declaredTemplates r = templates) :
    (Reconcile.run context r).Ensures (backing render templates now) anyEnd [] := by
  have hm : (backing render templates now).Monotone := monotone_backing
  simp only [Reconcile.run, Dialogue.ensures_bind, Reconcile.reconcile, Task.ensures_bind,
    ensures_read, after_ok]
  refine Ensures.of_anyEnd hm ?_ fun past out => ⟨trivial, fun _ => trivial⟩
  cases r.metadata.isDeleted with
  | true => exact backed_reconcileDeleted context _
  | false => exact backed_reconcileWanted context _ hr

end Backed

end ResourceKey

/-! ## One rendering and another -/

namespace World

variable {log log' : List (Exchange World)} {post : α → β → Prop}

/-- Every write to the cluster is accepted. -/
def Accepted (log : List (Exchange World)) : Prop :=
  ∀ call e, (⟨.cluster call, .error e⟩ : Exchange World) ∉ log

/-- What is exchanged but for the secrets that are written. -/
def besideSecrets (log : List (Exchange World)) : List (Exchange World) :=
  log.filter fun x => !writesSecret x.question

/-- Up to a call to the outside, the logs are the same but for secrets, and that call is answered in
the one and in the other differently. -/
def AnsweredApart (log log' : List (Exchange World)) : Prop :=
  ∃ before call answer answer' after after',
    besideSecrets log = before ++ ⟨.outside call, answer⟩ :: after ∧
      besideSecrets log' = before ++ ⟨.outside call, answer'⟩ :: after' ∧ answer' ≠ answer

theorem accepted_append : Accepted (log ++ log') ↔ Accepted log ∧ Accepted log' := by
  simp only [Accepted, List.mem_append, not_or, forall_and]

theorem accepted_secret {secret : SecretReference} {details : Table String}
    {answer : Except ReconcileError Unit} :
    Accepted (⟨.cluster (.applySecret secret details), answer⟩ :: log) ↔
      answer = .ok () ∧ Accepted log := by
  constructor
  · intro h
    refine ⟨?_, fun call e hmem => h call e (List.mem_cons_of_mem _ hmem)⟩
    cases answer with
    | error e => exact absurd List.mem_cons_self (h _ e)
    | ok _ => rfl
  · rintro ⟨rfl, h⟩ call e hmem
    rcases List.mem_cons.mp hmem with heq | hmem
    · cases heq
    · exact h call e hmem

theorem besideSecrets_append :
    besideSecrets (log ++ log') = besideSecrets log ++ besideSecrets log' :=
  List.filter_append ..

/-- Any run of the one comes with a run of the other that is the same but for secrets, where writes
are accepted. -/
def Mirrors (d d' : Dialogue World α) : Prop :=
  ∀ log out, Run d log out → Accepted log →
    ∃ log', Run d' log' out ∧ Accepted log' ∧ besideSecrets log' = besideSecrets log

theorem Mirrors.refl (d : Dialogue World α) : Mirrors d d :=
  fun log _ run h => ⟨log, run, h, rfl⟩

theorem Alike.refl : ∀ (q : WorldCall) (answer : World.Answer q), Alike q answer answer
  | .outside q, answer => Outside.Alike.refl q answer
  | .cluster _, _ => rfl
  | .record _, _ => rfl

/-- Dialogues in step that are followed by such that mirror each other. -/
theorem mirrors_bind {e : Dialogue World α} {e' : Dialogue World β} {f : α → Dialogue World γ}
    {f' : β → Dialogue World γ} (h : Lockstep Alike post e e')
    (hf : ∀ a b, post a b → Mirrors (f a) (f' b)) : Mirrors (e.bind f) (e'.bind f') := by
  intro log out run haccepted
  obtain ⟨first, rest, a, hfirst, hrest, rfl⟩ := Run.bind.mp run
  obtain ⟨haccepted, hlater⟩ := accepted_append.mp haccepted
  obtain ⟨b, hfirst', hpost⟩ := h.matched Alike.refl hfirst
  obtain ⟨rest', hrest', hlater', hsame⟩ := hf a b hpost rest out hrest hlater
  refine ⟨first ++ rest', Run.bind.mpr ⟨first, rest', b, hfirst', hrest', rfl⟩,
    accepted_append.mpr ⟨haccepted, hlater'⟩, ?_⟩
  rw [besideSecrets_append, besideSecrets_append, hsame]

section Renderings

variable {details details' : ResourceKey.Detailing} {now : String}

/-- What has nothing to do with details is carried out the same. -/
theorem forward_eq_of_plain {d : Dialogue (Lifecycle .resourceKey) α} (hd : Reconcile.Plain d) :
    d.forward (carryOut (ResourceKey.externalWith details') now) =
      d.forward (carryOut (ResourceKey.externalWith details) now) := by
  induction d with
  | done a => rfl
  | ask q next ih =>
    have hq : q.Plain := hd.1
    have hcarry : carryOut (ResourceKey.externalWith details') now q =
        carryOut (ResourceKey.externalWith details) now q := by
      cases q with
      | observe _ | create _ => exact hq.elim
      | _ => rfl
    show (carryOut _ now q).bind _ = (carryOut _ now q).bind _
    rw [hcarry]
    exact congrArg _ (funext fun answer => ih answer (hd.2 answer trivial))

theorem mirrors_publishing (secret : SecretReference) (published published' : Option (Table String))
    {next : Except ReconcileError Unit → Dialogue (Lifecycle .resourceKey) α}
    (hnext : ∀ answer, Reconcile.Plain (next answer)) :
    Mirrors
      ((Reconcile.publishing secret published next).forward
        (carryOut (ResourceKey.externalWith details) now))
      ((Reconcile.publishing secret published' next).forward
        (carryOut (ResourceKey.externalWith details') now)) := by
  have hsame : ∀ answer, (next answer).forward (carryOut (ResourceKey.externalWith details') now) =
      (next answer).forward (carryOut (ResourceKey.externalWith details) now) :=
    fun answer => forward_eq_of_plain (hnext answer)
  intro log out run haccepted
  cases published with
  | none =>
    have hrest : Run ((next (.ok ())).forward (carryOut _ now)) log out := run
    rw [← hsame] at hrest
    cases published' with
    | none => exact ⟨log, hrest, haccepted, rfl⟩
    | some table =>
      exact ⟨⟨.cluster (.applySecret secret table), .ok ()⟩ :: log,
        .ask (I := World) (.cluster (.applySecret secret table)) (.ok ()) hrest,
        accepted_secret.mpr ⟨rfl, haccepted⟩, rfl⟩
  | some table =>
    obtain ⟨answer, rest, hrest, rfl⟩ := run_ask_iff.mp run
    obtain ⟨rfl, hlater⟩ := accepted_secret.mp haccepted
    have hrest : Run ((next (.ok ())).forward (carryOut _ now)) rest out := hrest
    rw [← hsame] at hrest
    cases published' with
    | none => exact ⟨rest, hrest, hlater, rfl⟩
    | some table' =>
      exact ⟨⟨.cluster (.applySecret secret table'), .ok ()⟩ :: rest,
        .ask (I := World) (.cluster (.applySecret secret table')) (.ok ()) hrest,
        accepted_secret.mpr ⟨rfl, hlater⟩, rfl⟩

theorem mirrors_of_discreet {d d' : Dialogue (Lifecycle .resourceKey) α}
    (h : Reconcile.Discreet now d d') :
    Mirrors (d.forward (carryOut (ResourceKey.externalWith details) now))
      (d'.forward (carryOut (ResourceKey.externalWith details') now)) := by
  induction h with
  | plain hd =>
    rw [forward_eq_of_plain hd]
    exact .refl _
  | ask q _ ih => exact mirrors_bind (lockstep_carryOutWith details details' now q) ih
  | publish secret published published' hnext =>
    exact mirrors_publishing secret published published' hnext

end Renderings

/-- Runs of dialogues that mirror each other are the same but for secrets, up to where the outside
makes a difference. -/
theorem together_of_mirrors {d d' : Dialogue World α} (h : Mirrors d d') {out out' : α}
    (run : Run d log out) (run' : Run d' log' out') (haccepted : Accepted log)
    (haccepted' : Accepted log') :
    (besideSecrets log' = besideSecrets log ∧ out' = out) ∨ AnsweredApart log log' := by
  obtain ⟨mirrored, hmirrored, hok, hsame⟩ := h log out run haccepted
  obtain ⟨rfl, rfl⟩ | ⟨before, q, answer, answer', after, after', rfl, rfl, hne⟩ :=
    hmirrored.eq_or_parted run'
  · exact .inl ⟨hsame, rfl⟩
  · -- writes are accepted in both runs, so what they are answered differently is to the outside
    cases q with
    | outside call =>
      refine .inr ⟨besideSecrets before, call, answer, answer', besideSecrets after,
        besideSecrets after', ?_, besideSecrets_append, hne⟩
      rw [← hsame]
      exact besideSecrets_append
    | cluster call =>
      have hanswer := hok call
      have hanswer' := haccepted' call
      cases answer with
      | error e => exact absurd (List.mem_append_right _ List.mem_cons_self) (hanswer e)
      | ok _ =>
        cases answer' with
        | error e => exact absurd (List.mem_append_right _ List.mem_cons_self) (hanswer' e)
        | ok _ => exact absurd rfl hne
    | record succeeded => exact absurd rfl hne

/-- Logs are not apart where one function answers both. -/
theorem not_answeredApart {answers : (q : WorldCall) → World.Answer q}
    (hlog : ∀ x ∈ log, x.answer = answers x.question)
    (hlog' : ∀ x ∈ log', x.answer = answers x.question) : ¬ AnsweredApart log log' := by
  rintro ⟨before, call, answer, answer', after, after', h, h', hne⟩
  have mem_of_eq {log after : List (Exchange World)} {x : Exchange World}
      (h : besideSecrets log = before ++ x :: after) : x ∈ log :=
    List.mem_of_mem_filter (h ▸ List.mem_append_right before List.mem_cons_self)
  have hanswer : answer = answers (.outside call) := hlog _ (mem_of_eq h)
  have hanswer' : answer' = answers (.outside call) := hlog' _ (mem_of_eq h')
  exact hne (hanswer'.trans hanswer.symm)

end World

namespace ResourceKey

open ConnectionDetails

/-- **A connection secret is complete or untouched**, in whichever way templates are rendered. For
templates in order, of which there are some, there are details of credentials if and only if every
template can be rendered. They are the complete ones, and where there are none the failure names the
least key whose template cannot be rendered. So a reconciliation of a key with templates writes a
secret only with every key of the templates, and with what they are rendered to for a key that the
cloud has answered with before.

Which of the two it is makes no difference to anything else. An observation and a creation leave the
same resource and tell the same but for the details, whether templates are rendered in the one way
or in another. And to a reconciliation whose writes are accepted there is one with the other
rendering that asks, is answered, writes and comes to the same but for the secret, and there is no
other one unless the outside answers differently. -/
theorem secret_whole_or_untouched :
    (∀ context r, World.reconcileWith (externalRendering Template.render) context r =
      World.reconcile context r) ∧ extractWith Template.render = extract ∧
    (∀ (render : Rendering) (templates : Table String) (credentials : Json), templates ≠ [] →
      ((∃ details, extractWith render templates credentials = .ok details) ↔
        ∀ t ∈ templates, ∃ text, render t.2 credentials = .ok text) ∧
      (∀ details, extractWith render templates credentials = .ok details ↔
        Complete (fun t => render t credentials) templates details) ∧
      (templates.Sorted → ∀ e, extractWith render templates credentials = .error e ↔
        Broken (fun t => render t credentials) templates e)) ∧
    (∀ (render : Rendering) (context : Reconcile.Context) (r : Managed .resourceKey)
      (log : List (Exchange World)) (out : Except ReconcileError Action),
      Run (World.reconcileWith (externalRendering render) context r) log out →
      ∀ templates, r.spec.connectionTemplates = some templates → templates ≠ [] →
      ∀ before secret details answer after,
        log = before ++ ⟨.cluster (.applySecret secret details), answer⟩ :: after →
        Table.keys details = Table.keys templates ∧ ∃ key, World.Seen key before ∧
          Complete (fun t => render t key.credentials) templates details) ∧
    (∀ (render render' : Rendering) (now : String) (r : Managed .resourceKey)
      (log : List (Exchange Outside)),
      (∀ o, Run ((externalRendering render).observe now r) log o →
        ∃ o', Run ((externalRendering render').observe now r) log o' ∧
          o'.resource = o.resource ∧ ResultsAlike Observed.Alike o.result o'.result) ∧
      (∀ o, Run ((externalRendering render).create now r) log o →
        ∃ o', Run ((externalRendering render').create now r) log o' ∧
          o'.resource = o.resource ∧ ResultsAlike Created.Alike o.result o'.result)) ∧
    (∀ (render render' : Rendering) (context : Reconcile.Context) (r : Managed .resourceKey)
      (log : List (Exchange World)) (out : Except ReconcileError Action),
      Run (World.reconcileWith (externalRendering render) context r) log out →
      World.Accepted log →
      (∃ log', Run (World.reconcileWith (externalRendering render') context r) log' out ∧
        World.Accepted log' ∧ World.besideSecrets log' = World.besideSecrets log) ∧
      ∀ log' out', Run (World.reconcileWith (externalRendering render') context r) log' out' →
        World.Accepted log' →
        (World.besideSecrets log' = World.besideSecrets log ∧ out' = out) ∨
          World.AnsweredApart log log') := by
  have hmirrors (render render' : Rendering) (context : Reconcile.Context)
      (r : Managed .resourceKey) :
      World.Mirrors (World.reconcileWith (externalRendering render) context r)
        (World.reconcileWith (externalRendering render') context r) :=
    World.mirrors_of_discreet (Reconcile.discreet_run context r)
  refine ⟨fun _ _ => congrArg (fun external => World.reconcileWith external _ _)
      externalRendering_render, extractWith_render, fun render templates credentials h => ?_,
    fun render context r log out run templates hr h before secret details answer after hlog => ?_,
    fun render render' now r log => ⟨fun o run => ?_, fun o run => ?_⟩,
    fun render render' context r log out run haccepted => ⟨?_, fun log' out' run' haccepted' => ?_⟩⟩
  · exact ⟨exists_extractWith_eq_ok h, fun _ => extractWith_eq_ok h,
      fun hs _ => extractWith_eq_error h hs⟩
  · have hdeclared : declaredTemplates r = templates := by
      rw [declaredTemplates, hr]
      rfl
    have hbacked : (Reconcile.run context r).Ensures (backing render templates context.now) anyEnd
        [] := backed_run context hdeclared
    obtain ⟨key, hseen, hdetails⟩ :=
      run.allowed_of_ensures ((ensures_forward _ _).mpr hbacked) hlog
    have hcomplete := (extractWith_eq_ok h).mp hdetails
    exact ⟨hcomplete.keys, key, hseen, hcomplete⟩
  · obtain ⟨o', run', halike⟩ := (lockstep_observeWith (connectionDetailsWith render)
      (connectionDetailsWith render') r).matched Outside.Alike.refl run
    exact ⟨o', run', halike.resource.eq, halike.result⟩
  · obtain ⟨o', run', halike⟩ := (lockstep_createWith (connectionDetailsWith render)
      (connectionDetailsWith render') r).matched Outside.Alike.refl run
    exact ⟨o', run', halike.resource.eq, halike.result⟩
  · exact hmirrors render render' context r log out run haccepted
  · exact World.together_of_mirrors (hmirrors render render' context r) run run' haccepted
      haccepted'

/-- The templates of the key whose secret is to hold the password. -/
def passwordTemplates : Table String :=
  [("password", "\x7b\x7b password \x7d\x7d")]

/-- A rendering that no template passes. -/
def unrenderable : Rendering :=
  fun _ _ => .error .undefinedValue

/-- The key with a password is seen. -/
def seenPassword : Exchange Outside :=
  ⟨.cloud (.controller (.getKey "k-1")), .ok passwordKey⟩

/-- Nothing is published of the key with a password but its status. -/
def unrenderedRun : List (Exchange World) :=
  [World.ofExchange seenPassword, ⟨.cluster (.patchStatus "key" issuedStatus.encode), .ok ()⟩,
    ⟨.record true, ()⟩]

theorem run_observe_unrenderable :
    Run ((externalRendering unrenderable).observe "t0" templatedKey) [seenPassword]
      ⟨.ok ⟨true, true, false, []⟩, seenKey⟩ :=
  .ask _ _ (.done _)

theorem run_unrenderedRun :
    Run (World.reconcileWith (externalRendering unrenderable) ⟨300, 30, "t0"⟩ templatedKey)
      unrenderedRun (.ok (.requeue 300)) := by
  have observed : Run (World.carryOut (externalRendering unrenderable) "t0" (.observe templatedKey))
      [World.ofExchange seenPassword] ⟨.ok ⟨true, true, false, []⟩, seenKey⟩ :=
    .ask _ _ (.done _)
  have resolved : Run (World.carryOut (externalRendering unrenderable) "t0"
      (.resolveReferences templatedKey)) [] ⟨.ok ⟨false, []⟩, templatedKey⟩ := .done _
  refine Run.forward_ask (I := Lifecycle .resourceKey) (q := .resolveReferences templatedKey)
    resolved ?_
  refine Run.forward_ask (I := Lifecycle .resourceKey) (q := .observe templatedKey) observed ?_
  exact .ask _ _ (.ask _ _ (.done _))

/-- **The password is published alone or not at all**, and nothing else tells whether it was. -/
theorem passwordTemplate_whole_or_untouched :
    (∃ details, extractWith Template.render passwordTemplates passwordKey.credentials =
      .ok details) ∧
    extractWith unrenderable passwordTemplates passwordKey.credentials =
      .error (.template "password" .undefinedValue) ∧
    (∃ key, World.Seen key [World.ofExchange seenPassword] ∧
      Complete (fun t => Template.render t key.credentials) passwordTemplates
        [("password", "p1")]) ∧
    (∃ o, Run ((externalRendering Template.render).observe "t0" templatedKey) [seenPassword] o ∧
      o.resource = seenKey) ∧
    World.besideSecrets passwordRun = World.besideSecrets unrenderedRun := by
  obtain ⟨-, -, extraction, published, operations, runs⟩ := secret_whole_or_untouched
  have hsome : passwordTemplates ≠ [] := List.cons_ne_nil _ _
  have hrendered : Template.render "\x7b\x7b password \x7d\x7d" passwordKey.credentials =
      .ok "p1" := by
    decide +kernel
  obtain ⟨hok, -, -⟩ := extraction Template.render passwordTemplates passwordKey.credentials hsome
  obtain ⟨-, -, herror⟩ := extraction unrenderable passwordTemplates passwordKey.credentials hsome
  obtain ⟨o, run, hresource, -⟩ :=
    (operations unrenderable Template.render "t0" templatedKey [seenPassword]).1 _
      run_observe_unrenderable
  have hanswers : ∀ x ∈ passwordRun, x.answer = surroundings passwordKey x.question :=
    List.forall_mem_cons.mpr ⟨rfl, List.forall_mem_cons.mpr ⟨rfl, List.forall_mem_cons.mpr ⟨rfl,
      List.forall_mem_singleton.mpr rfl⟩⟩⟩
  have hanswers' : ∀ x ∈ unrenderedRun, x.answer = surroundings passwordKey x.question :=
    List.forall_mem_cons.mpr ⟨rfl, List.forall_mem_cons.mpr ⟨rfl,
      List.forall_mem_singleton.mpr rfl⟩⟩
  have accepted {log : List (Exchange World)}
      (h : ∀ x ∈ log, x.answer = surroundings passwordKey x.question) : World.Accepted log :=
    fun call e hmem => nomatch h _ hmem
  obtain ⟨-, key, hseen, hcomplete⟩ := published Template.render _ templatedKey passwordRun _
    run_passwordRun passwordTemplates rfl hsome [World.ofExchange seenPassword] ⟨"conn", "apps"⟩
    [("password", "p1")] (.ok ()) _ rfl
  obtain ⟨-, htogether⟩ := runs unrenderable Template.render _ templatedKey unrenderedRun _
    run_unrenderedRun (accepted hanswers')
  obtain ⟨hsame, -⟩ := (htogether passwordRun _ run_passwordRun (accepted hanswers)).resolve_right
    (World.not_answeredApart hanswers' hanswers)
  refine ⟨hok.mpr ?_, (herror ?_ _).mpr ?_, ⟨key, hseen, hcomplete⟩, ⟨o, run, hresource⟩, hsame⟩
  · exact List.forall_mem_singleton.mpr ⟨"p1", hrendered⟩
  · exact List.pairwise_singleton _ _
  · exact ⟨"password", _, .undefinedValue, rfl, List.mem_singleton_self _, rfl,
      fun other hother hlt => absurd hlt (List.mem_singleton.mp hother ▸ String.lt_irrefl _)⟩

end ResourceKey

end ResourceOperator
