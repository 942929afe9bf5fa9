import Mathlib.Tactic.ByContra
import ResourceOperator.Proofs.Cluster.Stored
import ResourceOperator.Proofs.External.Tracking
import ResourceOperator.Proofs.Reconcile.Invariant
import ResourceOperator.Reconcile.World

/-!
# A remote object is created once

A lifetime of a declared object is any number of reconciliations, each of the object as the cluster
stores it by then. Once a creation has answered an id and the write right after it has stored that
id, nothing is created again until the cloud has reported the object of that id absent.

`Held id past` says that the operator has hold of an id after the exchanges `past`: it has just been
created, or it has been stored right after its creation and not been reported absent since. Two
invariants carry the argument. `Bound` ties the resource that a reconciliation works on to the ids
held, and `Kept` the stored object to the ids stored.

Results:
* `bound_reconcile`: a reconciliation of a bound resource creates only when no id is held, and
  stores bound resources only.
* `kept_evolves`: so the stored object keeps the id.
* `created_once`: nothing is created again in a lifetime while an id is stored and not reported
  absent.
* `creation_repeated_after_lost_store`: a creation whose id could not be stored is repeated.
-/

namespace ResourceOperator.World

open ResourceOperator.Dialogue ResourceOperator.Reconcile ResourceOperator.Task

variable {k : Kind} {id : String} {past : List (Exchange World)}

/-! ## What an exchange says about remote objects -/

/-- An exchange with the outside, as one with the surroundings. -/
def ofExchange (x : Exchange Outside) : Exchange World :=
  ⟨.outside x.question, x.answer⟩

/-- The question is for a creation. -/
def creates : WorldCall → Bool
  | .outside q => Outside.creates q
  | _ => false

/-- The id that a creation which succeeded has answered. -/
def createdId : Exchange World → Option String
  | ⟨.outside q, answer⟩ => Outside.createdId ⟨q, answer⟩
  | _ => none

/-- The cloud reports the object with this id absent. -/
def ReportsAbsent (id : String) : Exchange World → Prop
  | ⟨.outside q, answer⟩ => Outside.ReportsAbsent id ⟨q, answer⟩
  | _ => False

/-- The object with this id has just been created. -/
def Fresh (id : String) (past : List (Exchange World)) : Prop :=
  ∃ before creation, past = before ++ [creation] ∧ createdId creation = some id

/-- The id was stored right after its creation, and its object has not been reported absent
since. -/
def Stored (id : String) (past : List (Exchange World)) : Prop :=
  ∃ before creation name body since,
    past = before ++ creation :: ⟨.cluster (.patch name body), .ok ()⟩ :: since ∧
      createdId creation = some id ∧ ∀ x ∈ since, ¬ ReportsAbsent id x

/-- The operator has hold of the id. -/
def Held (id : String) (past : List (Exchange World)) : Prop :=
  Fresh id past ∨ Stored id past

/-- No id is held. -/
def Free (past : List (Exchange World)) : Prop :=
  ∀ id, id ≠ "" → ¬ Held id past

theorem fresh_append {x : Exchange World} : Fresh id (past ++ [x]) ↔ createdId x = some id := by
  constructor
  · rintro ⟨before, creation, e, h⟩
    obtain ⟨-, e⟩ := List.append_inj' e rfl
    cases e
    exact h
  · exact fun h => ⟨past, x, rfl, h⟩

/-- An id stays stored unless its object is reported absent, and is new there when the write after
its creation succeeds. -/
theorem stored_append {x : Exchange World} (h : Stored id (past ++ [x])) :
    (Stored id past ∧ ¬ ReportsAbsent id x) ∨
      (Fresh id past ∧ ∃ name body, x = ⟨.cluster (.patch name body), .ok ()⟩) := by
  obtain ⟨before, creation, name, body, since, e, hc, hs⟩ := h
  rcases List.eq_nil_or_concat since with rfl | ⟨since, y, rfl⟩
  · have e' : past ++ [x] =
        (before ++ [creation]) ++ [⟨.cluster (.patch name body), .ok ()⟩] := by simp [e]
    obtain ⟨rfl, hx⟩ := List.append_inj' e' rfl
    obtain rfl := List.singleton_inj.mp hx
    exact .inr ⟨⟨before, creation, rfl, hc⟩, name, body, rfl⟩
  · have e' : past ++ [x] =
        (before ++ creation :: ⟨.cluster (.patch name body), .ok ()⟩ :: since) ++ [y] := by simp [e]
    obtain ⟨rfl, hx⟩ := List.append_inj' e' rfl
    obtain rfl := List.singleton_inj.mp hx
    refine .inl ⟨⟨before, creation, name, body, since, rfl, hc, fun z hz => hs z ?_⟩, hs x ?_⟩
    · simp [hz]
    · simp

/-- An id that is held has just been created, or it was held before and is not reported absent. -/
theorem held_append {x : Exchange World} (h : Held id (past ++ [x])) :
    createdId x = some id ∨ (Held id past ∧ ¬ ReportsAbsent id x) := by
  rcases h with h | h
  · exact .inl (fresh_append.mp h)
  · rcases stored_append h with ⟨hs, hx⟩ | ⟨hf, name, body, rfl⟩
    · exact .inr ⟨.inr hs, hx⟩
    · exact .inr ⟨.inl hf, fun hx => hx⟩

/-- What is held after calls that created nothing was held before, and has not been reported absent
by them. -/
theorem held_barren {log : List (Exchange Outside)} (hb : Outside.Barren log)
    (h : Held id (past ++ log.map ofExchange)) :
    Held id past ∧ ∀ x ∈ log, ¬ Outside.ReportsAbsent id x := by
  induction log generalizing past with
  | nil => exact ⟨by simpa using h, fun _ hx => nomatch hx⟩
  | cons x rest ih =>
    have hrest : Outside.Barren rest := fun y hy => hb y (List.mem_cons_of_mem x hy)
    have e : past ++ (x :: rest).map ofExchange =
        (past ++ [ofExchange x]) ++ rest.map ofExchange := by simp
    rw [e] at h
    obtain ⟨h, hr⟩ := ih hrest h
    rcases held_append h with hc | ⟨h, hx⟩
    · have hn : createdId (ofExchange x) = none := hb x List.mem_cons_self
      rw [hn] at hc
      cases hc
    · refine ⟨h, fun y hy => ?_⟩
      rcases List.mem_cons.mp hy with rfl | hy
      · exact hx
      · exact hr y hy

theorem Free.barren {log : List (Exchange Outside)} (h : Free past) (hb : Outside.Barren log) :
    Free (past ++ log.map ofExchange) :=
  fun id hid hh => h id hid (held_barren hb hh).1

/-! ## The resource in hand -/

/-- A resource with these metadata carries the id that is held. -/
structure Bound (past : List (Exchange World)) (metadata : Metadata) : Prop where
  sorted : Table.Sorted metadata.annotationTable
  carries : ∀ id, id ≠ "" → Held id past → metadata.externalName = some id

/-- What may be asked after `past`: a creation when no id is held, and a patch that stores a bound
resource. -/
def Allowed (k : Kind) (past : List (Exchange World)) : WorldCall → Prop
  | .outside q => Outside.creates q = true → Free past
  | .cluster (.patch _ body) =>
    ∃ r : Managed k, body = r.desiredStatePatch ∧ Bound past r.metadata
  | _ => True

theorem Bound.append {metadata : Metadata} (h : Bound past metadata) {x : Exchange World}
    (hx : createdId x = none) : Bound (past ++ [x]) metadata := by
  refine ⟨h.sorted, fun id hid hh => ?_⟩
  rcases held_append hh with hc | ⟨hh, -⟩
  · rw [hx] at hc
    cases hc
  · exact h.carries id hid hh

theorem Bound.barren {metadata : Metadata} (h : Bound past metadata)
    {log : List (Exchange Outside)} (hb : Outside.Barren log) :
    Bound (past ++ log.map ofExchange) metadata :=
  ⟨h.sorted, fun id hid hh => h.carries id hid (held_barren hb hh).1⟩

/-- After a creation when no id was held, the resource that carries its id is bound. -/
theorem bound_created {metadata : Metadata} (hs : Table.Sorted metadata.annotationTable)
    (hf : Free past) {creation : Exchange World} (hc : createdId creation = some id) :
    Bound (past ++ [creation]) (metadata.setExternalName id) := by
  refine ⟨hs.insert _ _, fun other hother hh => ?_⟩
  rcases held_append hh with h | ⟨h, -⟩
  · obtain rfl : id = other := Option.some.inj (hc.symm.trans h)
    rw [Metadata.externalName_setExternalName]
    simp [hother]
  · exact absurd h (hf other hother)

/-! ## Operations -/

/-- A dialogue with the outside obeys a rule of the surroundings that its own rule implies. -/
theorem ensures_ofOutside_onto {α : Type} {allowed : List (Exchange Outside) → OutsideCall → Prop}
    {post : List (Exchange Outside) → α → Prop} {d : Dialogue Outside α}
    (ha : ∀ log q, allowed log q → Allowed k (past ++ log.map ofExchange) (.outside q))
    {log : List (Exchange Outside)} (h : d.Ensures (watch allowed) post log) :
    (ofOutside d).Ensures (watch (Allowed k))
      (fun after a => ∃ log, after = past ++ log.map ofExchange ∧ post log a)
      (past ++ log.map ofExchange) := by
  induction d generalizing log with
  | done a => exact ⟨log, rfl, h⟩
  | ask q next ih =>
    refine ⟨ha log q h.1, fun answer => ?_⟩
    have hnext := ih answer (h.2 answer)
    rw [List.map_append, ← List.append_assoc] at hnext
    exact hnext

/-- The same of a dialogue from its start. -/
theorem ensures_ofOutside {α : Type} {allowed : List (Exchange Outside) → OutsideCall → Prop}
    {post : List (Exchange Outside) → α → Prop} {d : Dialogue Outside α}
    (ha : ∀ log q, allowed log q → Allowed k (past ++ log.map ofExchange) (.outside q))
    (h : d.Ensures (watch allowed) post []) :
    (ofOutside d).Ensures (watch (Allowed k))
      (fun after a => ∃ log, after = past ++ log.map ofExchange ∧ post log a) past := by
  have hall := ensures_ofOutside_onto ha h
  rwa [List.map_nil, List.append_nil] at hall

/-- Calls that create nothing are allowed. -/
theorem ensures_ofOutside_barren {α : Type} {post : List (Exchange Outside) → α → Prop}
    {d : Dialogue Outside α}
    (h : d.Ensures (watch fun _ q => Outside.creates q = false) post []) :
    (ofOutside d).Ensures (watch (Allowed k))
      (fun after a => ∃ log, after = past ++ log.map ofExchange ∧ Outside.Barren log ∧ post log a)
      past := by
  refine (ensures_ofOutside (fun log q hq hc => Bool.noConfusion (hq.symm.trans hc))
    (h.with_questions fun x hx => nomatch hx)).mono (monotone_watch _) ?_
  rintro after a ⟨log, rfl, hq, hp⟩
  exact ⟨log, rfl, fun x hx => Outside.createdId_of_not_creates (hq x hx), hp⟩

/-- An operation that creates nothing keeps the resource bound. -/
theorem bound_quiet {α : Type} {metadata : Metadata} {d : Dialogue Outside (Outcome k α)}
    (hd : Outside.Quiet metadata d) (h : Bound past metadata) :
    (ofOutside d).Ensures (watch (Allowed k)) (fun past o => Bound past o.resource.metadata)
      past := by
  refine (ensures_ofOutside_barren (hd [])).mono (monotone_watch _) ?_
  rintro after o ⟨log, rfl, hb, hm⟩
  rw [hm]
  exact h.barren hb

/-- An observation keeps the resource bound, and finds no remote object only when no id is held. -/
theorem bound_observe {r : Managed k} {d : Dialogue Outside (Outcome k Observed)}
    (hd : d.Ensures (watch fun _ q => Outside.creates q = false) (Sighted r) [])
    (h : Bound past r.metadata) :
    (ofOutside d).Ensures (watch (Allowed k))
      (fun past o => Bound past o.resource.metadata ∧
        ∀ observed, o.result = .ok observed → observed.present = false → Free past) past := by
  refine (ensures_ofOutside_barren hd).mono (monotone_watch _) ?_
  rintro after o ⟨log, rfl, hb, hm, habsent⟩
  refine ⟨hm ▸ h.barren hb, fun observed e hp id hid hh => ?_⟩
  obtain ⟨hh, hr⟩ := held_barren hb hh
  have hc : r.externalName = some id := h.carries id hid hh
  rcases habsent observed e hp with hn | ⟨other, ho, x, hx, hx'⟩
  · rw [hn] at hc
    cases hc
  · obtain rfl : other = id := Option.some.inj (ho.symm.trans hc)
    exact hr x hx hx'

/-- A creation when no id is held leaves the resource bound. -/
theorem bound_create {r : Managed k} {d : Dialogue Outside (Outcome k Created)}
    (hd : d.Ensures (watch fun log _ => Outside.Barren log) (Registered r) [])
    (h : Bound past r.metadata) (hf : Free past) :
    (ofOutside d).Ensures (watch (Allowed k)) (fun past o => Bound past o.resource.metadata)
      past := by
  refine (ensures_ofOutside (fun log q hb _ => hf.barren hb) hd).mono (monotone_watch _) ?_
  rintro after ⟨e | created, left⟩ ⟨log, rfl, hr⟩
  · obtain ⟨hb, hm⟩ := hr
    rw [hm]
    exact h.barren hb
  · obtain ⟨before, x, id, rfl, hb, hc, hm⟩ := hr
    rw [hm, List.map_append, ← List.append_assoc]
    exact bound_created h.sorted (hf.barren hb) hc

/-! ## A reconciliation -/

/-- The rule of `Allowed` for the calls of a reconciliation, each carried out. -/
abbrev rule (k : Kind) (now : String) : Rule (Lifecycle k) (List (Exchange World)) :=
  (watch (Allowed k)).through (carryOut (External.ofKind k) now)

/-- Every call but a creation keeps the resource bound. -/
theorem calm_bound (hk : k ≠ .topic) (now : String) :
    Calm (rule k now) fun past r => Bound past r.metadata where
  mono := (monotone_watch _).through _
  condition _ _ _ h := h
  resolveReferences _ r h := bound_quiet ((External.tracks_ofKind hk).resolveReferences r) h
  observe _ r h :=
    (bound_observe ((External.tracks_ofKind hk).observe now r) h).mono (monotone_watch _)
      fun _ _ h => h.1
  update _ r h := bound_quiet ((External.tracks_ofKind hk).update r) h
  delete _ r h := bound_quiet ((External.tracks_ofKind hk).delete now r) h
  write past r c h hc := by
    refine ⟨?_, fun answer => h.append rfl⟩
    cases c with
    | patch name body => exact ⟨r, hc, h⟩
    | _ => trivial

theorem bound_syncAbsent (hk : k ≠ .topic) {context : Context} (name : String) {r : Managed k}
    (h : Bound past r.metadata) (hf : Free past) :
    (syncAbsent context name r).Ensures (rule k context.now)
      (fun past out => Bound past out.2.metadata) past := by
  have calm := calm_bound hk context.now
  rw [syncAbsent, Task.ensures_bind, ensures_create]
  refine (bound_create ((External.tracks_ofKind hk).create context.now r) h hf).mono
    (monotone_watch _) ?_
  rintro past ⟨e | created, left⟩ h
  · exact h
  · refine maintains_bind calm.mono (calm.storeDesired name) (fun _ => ?_) past left h
    refine maintains_bind calm.mono (calm.publishDetails _) fun _ => ?_
    exact maintains_bind calm.mono (calm.setCondition _) fun _ => maintains_pure _

theorem bound_branch (hk : k ≠ .topic) (context : Context) (name : String) :
    Maintains (rule k context.now) (fun past (r : Managed k) => Bound past r.metadata)
      (branch context name) := by
  have calm := calm_bound hk context.now
  intro past r h
  rw [branch, Task.ensures_bind, ensures_observe]
  refine (bound_observe ((External.tracks_ofKind hk).observe context.now r) h).mono
    (monotone_watch _) ?_
  rintro past ⟨e | observed, seen⟩ ⟨h, habsent⟩
  · exact h
  · rw [settled_ok]
    cases hp : observed.present with
    | true => exact calm.syncPresent context name observed past seen h
    | false => exact bound_syncAbsent hk name h (habsent observed rfl hp)

/-- **A reconciliation of a bound resource** creates only when no id is held, and stores bound
resources only. It ends with the record of its outcome, so no creation is left fresh. -/
theorem bound_reconcile (hk : k ≠ .topic) (context : Context) {r : Managed k}
    (h : Bound past r.metadata) :
    (World.reconcile context r).Ensures (watch (Allowed k)) (fun past _ => ∀ id, ¬ Fresh id past)
      past := by
  refine (ensures_forward _ _).mpr ((calm_bound hk context.now).run context
    (bound_branch hk context) h ?_)
  refine fun past r result _ => ⟨trivial, fun _ id hf => ?_⟩
  cases fresh_append.mp hf

/-! ## The stored object -/

/-- What an exchange may make of the stored object: a write that succeeded was carried out, and one
that failed may have been. -/
def Effect : Exchange World → Json → Json → Prop
  | ⟨.cluster c, .ok _⟩, before, after => after = c.apply before
  | ⟨.cluster c, .error _⟩, before, after => after = before ∨ after = c.apply before
  | _, before, after => after = before

/-- What becomes of the stored object in the course of exchanges. Others may change it at any time,
if they leave the external name. -/
inductive Evolves : Json → List (Exchange World) → Json → Prop
  | done (stored : Json) : Evolves stored [] stored
  | edit {before edited after : Json} {log : List (Exchange World)}
    (name : Cluster.storedName edited = Cluster.storedName before)
    (order : Cluster.Ordered edited) (rest : Evolves edited log after) :
    Evolves before log after
  | exchange {before stored after : Json} {x : Exchange World} {log : List (Exchange World)}
    (effect : Effect x before stored) (rest : Evolves stored log after) :
    Evolves before (x :: log) after

/-- The stored object keeps the ids that have been stored. -/
structure Kept (past : List (Exchange World)) (stored : Json) : Prop where
  order : Cluster.Ordered stored
  name : ∀ id, id ≠ "" → Stored id past → Cluster.storedName stored = some (.string id)

/-- An allowed write keeps the ids that have been stored, and stores the one that is held. -/
theorem Kept.apply {stored : Json} (h : Kept past stored) {c : Cluster.Call}
    (ha : Allowed k past (.cluster c)) :
    Cluster.Ordered (c.apply stored) ∧
      ∀ id, id ≠ "" → (Stored id past ∨ Fresh id past ∧ ∃ name body, c = .patch name body) →
        Cluster.storedName (c.apply stored) = some (.string id) := by
  by_cases hc : ∃ name body, c = .patch name body
  · obtain ⟨name, body, rfl⟩ := hc
    obtain ⟨r, rfl, hr⟩ := ha
    refine ⟨Cluster.ordered_patch h.order r, fun id hid hh => ?_⟩
    refine Cluster.storedName_patch hr.sorted (hr.carries id hid ?_) stored
    exact hh.symm.imp_left And.left
  · have hn : ∀ name body, c ≠ .patch name body := fun name body e => hc ⟨name, body, e⟩
    refine ⟨Cluster.ordered_apply hn h.order, ?_⟩
    rintro id hid (hs | ⟨-, hp⟩)
    · rw [Cluster.storedName_apply hn]
      exact h.name id hid hs
    · exact absurd hp hc

/-- An exchange that does not store an id keeps the ids that have been stored. -/
theorem Kept.append {stored : Json} (h : Kept past stored) {x : Exchange World}
    (hx : ∀ name body, x ≠ ⟨.cluster (.patch name body), .ok ()⟩) : Kept (past ++ [x]) stored := by
  refine ⟨h.order, fun id hid hs => ?_⟩
  rcases stored_append hs with ⟨hs, -⟩ | ⟨-, name, body, e⟩
  · exact h.name id hid hs
  · exact absurd e (hx name body)

theorem Kept.exchange {before after : Json} (h : Kept past before) {x : Exchange World}
    (ha : Allowed k past x.question) (he : Effect x before after) : Kept (past ++ [x]) after := by
  obtain ⟨q, answer⟩ := x
  cases q with
  | outside q =>
    obtain rfl : after = before := he
    exact h.append fun _ _ => nofun
  | record succeeded =>
    obtain rfl : after = before := he
    exact h.append fun _ _ => nofun
  | cluster c =>
    obtain ⟨order, names⟩ := h.apply ha
    have applied : Kept (past ++ [⟨.cluster c, answer⟩]) (c.apply before) := by
      refine ⟨order, fun id hid hs => names id hid ?_⟩
      rcases stored_append hs with ⟨hs, -⟩ | ⟨hf, name, body, e⟩
      · exact .inl hs
      · cases e
        exact .inr ⟨hf, name, body, rfl⟩
    cases answer with
    | ok _ =>
      obtain rfl : after = c.apply before := he
      exact applied
    | error e =>
      rcases he with rfl | rfl
      · exact h.append fun _ _ => nofun
      · exact applied

/-- The stored object keeps the ids through exchanges that are allowed. -/
theorem kept_evolves {before after : Json} {log : List (Exchange World)}
    (he : Evolves before log after) (h : Kept past before)
    (ha : ∀ first x last, log = first ++ x :: last → Allowed k (past ++ first) x.question) :
    Kept (past ++ log) after := by
  induction he generalizing past with
  | done stored => simpa using h
  | edit name order rest ih =>
    exact ih ⟨order, fun id hid hs => name.trans (h.name id hid hs)⟩ ha
  | exchange effect rest ih =>
    rename_i x log
    have hx := h.exchange (by simpa using ha [] x log rfl) effect
    have hrest := ih hx fun first y last e => by
      simpa using ha (x :: first) y last (by rw [e, List.cons_append])
    simpa using hrest

/-! ## A lifetime -/

/-- Any number of reconciliations of one declared object, each of the object as the cluster stores
it by then. -/
inductive Lifetime (k : Kind) : Json → List (Exchange World) → Json → Prop
  | done (stored : Json) : Lifetime k stored [] stored
  | reconcile {before stored after : Json} {context : Context} {r : Managed k}
    {log later : List (Exchange World)} {result : Except ReconcileError Action}
    (read : Managed.decode k before = some r) (run : Run (World.reconcile context r) log result)
    (evolves : Evolves before log stored) (rest : Lifetime k stored later after) :
    Lifetime k before (log ++ later) after

/-- What is read from an object that keeps its ids is bound. -/
theorem Kept.bound {stored : Json} (h : Kept past stored) (hf : ∀ id, ¬ Fresh id past)
    {r : Managed k} (hr : Managed.decode k stored = some r) : Bound past r.metadata where
  sorted := Cluster.sorted_annotations hr h.order
  carries id hid hh :=
    Cluster.externalName_of_storedName hr (h.name id hid (hh.resolve_left (hf id))) hid

theorem allowed_lifetime (hk : k ≠ .topic) {before after : Json} {log : List (Exchange World)}
    (life : Lifetime k before log after) (h : Kept past before) (hf : ∀ id, ¬ Fresh id past) :
    ∀ first x last, log = first ++ x :: last → Allowed k (past ++ first) x.question := by
  induction life generalizing past with
  | done stored => exact fun first x last e => by simp at e
  | reconcile read run evolves rest ih =>
    rename_i before stored after context r log later result
    obtain ⟨ha, hend⟩ := run.ensured (bound_reconcile hk context (h.bound hf read))
    have hlog : ∀ first x last, log = first ++ x :: last → Allowed k (past ++ first) x.question :=
      fun first x last e => ha e
    have hrest := ih (kept_evolves evolves h hlog) hend
    intro first x last e
    rcases List.append_eq_append_iff.mp e with ⟨more, rfl, hl⟩ | ⟨_ | ⟨y, more⟩, rfl, hl⟩
    · simpa using hrest more x last hl
    · simpa using hrest [] x last hl.symm
    · obtain ⟨rfl, -⟩ := List.cons.inj hl
      exact hlog first x more rfl

theorem kept_nil {stored : Json} (h : Cluster.Ordered stored) : Kept [] stored := by
  refine ⟨h, fun id _ hs => ?_⟩
  obtain ⟨before, creation, name, body, since, e, -⟩ := hs
  simp at e

/-- **A remote object is created once.** In a lifetime of a declared network, subnet, service
instance or resource key, with every call to the cloud and every write to the cluster succeeding or
failing in any way: after a creation that answered an id, and a write right after it that succeeded,
nothing is created until the cloud has answered a request for that id with an object that is not
found, or that is in a state that counts as absent. -/
theorem created_once (hk : k ≠ .topic) {stored after : Json} (ho : Cluster.Ordered stored)
    {log : List (Exchange World)} (life : Lifetime k stored log after)
    {before since last : List (Exchange World)} {creation again : Exchange World} {name : String}
    {body : Json}
    (hlog : log = before ++ creation :: ⟨.cluster (.patch name body), .ok ()⟩ ::
      (since ++ again :: last))
    (hid : createdId creation = some id) (hne : id ≠ "") (hagain : creates again.question = true) :
    ∃ x ∈ since, ReportsAbsent id x := by
  by_contra hnone
  have hstored : Stored id
      (before ++ creation :: ⟨.cluster (.patch name body), .ok ()⟩ :: since) :=
    ⟨before, creation, name, body, since, rfl, hid, fun x hx hr => hnone ⟨x, hx, hr⟩⟩
  have hallowed := allowed_lifetime hk life (kept_nil ho) (fun id ⟨_, _, e, _⟩ => by simp at e)
    (before ++ creation :: ⟨.cluster (.patch name body), .ok ()⟩ :: since) again last
    (by simp [hlog])
  rw [List.nil_append] at hallowed
  obtain ⟨q, answer⟩ := again
  cases q with
  | outside q => exact hallowed hagain id hne (.inr hstored)
  | cluster c => cases hagain
  | record succeeded => cases hagain

/-- A network that is wanted and carries the finalizer. -/
def plainNetwork : Managed .vpc where
  metadata := { Metadata.empty with name := some "net", finalizers := some [Cluster.finalizer] }
  spec := ⟨⟨some "net", none, none, none⟩, .delete, none, ()⟩
  status := none

/-- The network as its creation leaves it. -/
def createdNetwork : Managed .vpc :=
  (plainNetwork.setExternalName "r006-1").setCondition (.creating "t0")

/-- The network as the cluster stores it after a reconciliation that created it. -/
def recordedNetwork : Managed .vpc :=
  createdNetwork.setCondition (.reconcileSuccess "t0")

/-- The creation of the network. -/
def networkCreation : Exchange World :=
  ⟨.outside (.cloud (.network (.createVpc (Vpc.Parameters.request plainNetwork.spec.forProvider)))),
    .ok ⟨"r006-1", "", "", "net", false, none, .available, none, none, none, none⟩⟩

/-- The cloud does not find the network. -/
def networkMissing : Exchange World :=
  ⟨.outside (.cloud (.network (.getVpc "r006-1"))), .error (.notFound "r006-1")⟩

/-- The network is created, its id stored and its status published. -/
def recordedRun : List (Exchange World) :=
  [networkCreation, ⟨.cluster (.patch "net" createdNetwork.desiredStatePatch), .ok ()⟩,
    ⟨.cluster (.patchStatus "net" (Status.encode (k := .vpc)
      ⟨none, [.creating "t0", .reconcileSuccess "t0"]⟩)), .ok ()⟩,
    ⟨.record true, ()⟩]

/-- The network is created, and then every write to the cluster fails. -/
def lostRun : List (Exchange World) :=
  [networkCreation,
    ⟨.cluster (.patch "net" createdNetwork.desiredStatePatch), .error (.cluster .unanswered)⟩,
    ⟨.cluster (.patchStatus "net" (Status.encode (k := .vpc)
      ⟨none, [.creating "t0", .reconcileError (ReconcileError.cluster .unanswered).message "t0"]⟩)),
      .error (.cluster .unanswered)⟩,
    ⟨.record false, ()⟩]

theorem ordered_plainNetwork : Cluster.Ordered plainNetwork.encode := by
  intro metadata table hm ha
  cases hm
  cases ha

/-- The network is created again when it is gone, which the cloud has reported before that. -/
theorem network_recreated_after_missing :
    ∃ x ∈ recordedRun.drop 2 ++ [networkMissing], ReportsAbsent "r006-1" x :=
  have first : Run (World.reconcile ⟨300, 30, "t0"⟩ plainNetwork) recordedRun
      (.ok (.requeue 30)) :=
    .ask _ _ (.ask _ _ (.ask _ _ (.ask _ _ (.done _))))
  have second : Run (World.reconcile ⟨300, 30, "t0"⟩ recordedNetwork)
      (networkMissing :: recordedRun) (.ok (.requeue 30)) :=
    .ask _ _ (.ask _ _ (.ask _ _ (.ask _ _ (.ask _ _ (.done _)))))
  have life : Lifetime .vpc plainNetwork.encode
      (recordedRun ++ ((networkMissing :: recordedRun) ++ [])) _ :=
    .reconcile rfl first (.exchange rfl (.exchange rfl (.exchange rfl (.exchange rfl (.done _)))))
      (.reconcile rfl second (.exchange rfl (.exchange rfl (.exchange rfl (.exchange rfl
        (.exchange rfl (.done _)))))) (.done _))
  have split : recordedRun ++ ((networkMissing :: recordedRun) ++ []) =
      [] ++ networkCreation ::
        ⟨.cluster (.patch "net" createdNetwork.desiredStatePatch), .ok ()⟩ ::
        ((recordedRun.drop 2 ++ [networkMissing]) ++ networkCreation :: recordedRun.drop 1) := rfl
  created_once (by decide) ordered_plainNetwork life split rfl (by decide) rfl

/-- A creation whose id could not be stored is repeated, though nothing was reported absent: the
write after the creation has to succeed. -/
theorem creation_repeated_after_lost_store :
    ¬ ∀ k, k ≠ .topic → ∀ stored after log, Cluster.Ordered stored → Lifetime k stored log after →
      ∀ before creation since again last id,
        log = before ++ creation :: (since ++ again :: last) → createdId creation = some id →
          id ≠ "" → creates again.question = true → ∃ x ∈ since, ReportsAbsent id x := by
  intro claim
  have run : Run (World.reconcile ⟨300, 30, "t0"⟩ plainNetwork) lostRun
      (.error (.cluster .unanswered)) :=
    .ask _ _ (.ask _ _ (.ask _ _ (.ask _ _ (.done _))))
  have evolves : Evolves plainNetwork.encode lostRun plainNetwork.encode :=
    .exchange rfl (.exchange (.inl rfl) (.exchange (.inl rfl) (.exchange rfl (.done _))))
  have life : Lifetime .vpc plainNetwork.encode (lostRun ++ (lostRun ++ [])) plainNetwork.encode :=
    .reconcile rfl run evolves (.reconcile rfl run evolves (.done _))
  obtain ⟨x, hx, hr⟩ := claim .vpc (by decide) _ _ _ ordered_plainNetwork life [] networkCreation
    lostRun.tail networkCreation lostRun.tail "r006-1" rfl rfl (by decide) rfl
  simp only [lostRun, List.tail_cons, List.mem_cons, List.not_mem_nil, or_false] at hx
  rcases hx with rfl | rfl | rfl <;> exact hr

end ResourceOperator.World
