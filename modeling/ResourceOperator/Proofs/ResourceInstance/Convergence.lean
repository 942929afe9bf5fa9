import ResourceOperator.Proofs.External.Sighting
import ResourceOperator.Proofs.ResourceInstance.Due

/-!
# Updates of an instance converge

Each call of an update may fail, and a call that is reported as failed may have taken effect all the
same. The update that follows compares anew, with what the earlier one has left.

`Serves` is a cloud that holds the instance: it tells of the instance as it is, it answers from its
catalog, and it makes of the instance what each call says, where the call takes effect. A call that
takes effect leaves those due that came after it, so that updates that are cut off, however many
there are and wherever each of them ends, together make each call that is due once and in order.

Results:
* `advances_of_update`: what a run of an update makes of the calls that are due.
* `makes_due`: the calls that are due are those that an update makes.
* `prefix_of_updates`, `updates_of_prefix`: what updates that are cut off have made together.
* `interrupted_updates_converge`: the update after them completes what they have begun.
* `movedInstance_resumed`: this for an update that is cut off after its first call.
-/

namespace ResourceOperator.ResourceInstance

open Cloud Dialogue Outside

/-! ## A cloud that holds an instance -/

/-- A cloud that holds this instance answers so, and these calls take effect. -/
inductive Serves (c : Host) : Remote → List (Exchange Outside) → List Cloud.Call → Prop where
  | nil (s : Remote) : Serves c s [] []
  /-- It tells of the instance. -/
  | told {s : Remote} {log : List (Exchange Outside)} {done : List Cloud.Call}
      (later : Serves c s log done) :
    Serves c s (⟨.cloud (.controller (.getInstance c.id)), .ok s⟩ :: log) done
  /-- It looks up a name or an id. -/
  | looked {s : Remote} {log : List (Exchange Outside)} {done : List Cloud.Call} (q : CatalogCall)
      (later : Serves c s log done) :
    Serves c s (⟨.cloud (.catalog q), c.catalog q⟩ :: log) done
  /-- A call takes effect, whatever is answered. -/
  | took {s : Remote} {log : List (Exchange Outside)} {done : List Cloud.Call} {call : Cloud.Call}
      (hc : reads (.cloud call) = false) (answer : Except Failure call.Result)
      (later : Serves c (c.effect call s) log done) :
    Serves c s (⟨.cloud call, answer⟩ :: log) (call :: done)
  /-- A call fails and takes no effect. -/
  | lost {s : Remote} {log : List (Exchange Outside)} {done : List Cloud.Call} {call : Cloud.Call}
      (hc : reads (.cloud call) = false) (e : Failure) (later : Serves c s log done) :
    Serves c s (⟨.cloud call, .error e⟩ :: log) done

/-- The calls of a log that do more than read, in their order. -/
def mutations (log : List (Exchange Outside)) : List Cloud.Call :=
  log.filterMap fun x => match x.question with
    | .cloud call => if reads (.cloud call) then none else some call
    | .lookup _ _ => none

/-- A call that does more than read is answered with a failure. -/
def Refused : Exchange Outside → Prop
  | ⟨.cloud call, .error _⟩ => reads (.cloud call) = false
  | _ => False

/-- Updates of a resource, one after the other, each of which may be cut off; and the calls that
have taken effect. -/
inductive Updates (c : Host) (r : Managed .resourceInstance) : Remote → List Cloud.Call → Prop where
  | none (s : Remote) : Updates c r s []
  | more {s : Remote} {log : List (Exchange Outside)} {o : Outcome .resourceInstance Unit}
      {first rest : List Cloud.Call} (run : Run (update r) log o) (served : Serves c s log first)
      (later : Updates c r (c.effects first s) rest) : Updates c r s (first ++ rest)

variable {c : Host} {r : Managed .resourceInstance} {s : Remote} {call : Cloud.Call}
  {calls done rest : List Cloud.Call} {log : List (Exchange Outside)}

/-! ## Runs of an update -/

/-- Calls are sent one after the other, until one fails. -/
inductive Sent : List Cloud.Call → List (Exchange Outside) → Except EngineError Unit → Prop where
  | nil : Sent [] [] (.ok ())
  | accepted {call : Cloud.Call} {calls : List Cloud.Call} {log : List (Exchange Outside)}
      {out : Except EngineError Unit} (v : call.Result) (later : Sent calls log out) :
    Sent (call :: calls) (⟨.cloud call, .ok v⟩ :: log) out
  | refused (call : Cloud.Call) (calls : List Cloud.Call) (e : Failure) (context : String) :
    Sent (call :: calls) [⟨.cloud call, .error e⟩] (.error (.cloud context e))

namespace Sent

variable {calls' : List Cloud.Call} {log' : List (Exchange Outside)} {out : Except EngineError Unit}

/-- What is sent after calls that did not fail. -/
theorem append (h : Sent calls log (.ok ())) (h' : Sent calls' log' out) :
    Sent (calls ++ calls') (log ++ log') out := by
  generalize hok : Except.ok () = first at h
  induction h with
  | nil => exact h'
  | accepted v _ ih => exact .accepted v (ih hok)
  | refused call calls e context => cases hok

/-- What would have been sent after a call that failed. -/
theorem cut {e : EngineError} (h : Sent calls log (.error e)) (calls' : List Cloud.Call) :
    Sent (calls ++ calls') log (.error e) := by
  generalize herror : Except.error e = first at h
  induction h with
  | nil => cases herror
  | accepted v _ ih => exact .accepted v (ih herror)
  | refused call calls e context => exact .refused call (calls ++ calls') e context

theorem of_callUnless {skip : Bool} {context : String}
    (run : Run (callUnless skip context call) log out) :
    Sent (if skip then [] else [call]) log out := by
  unfold callUnless at run
  cases skip with
  | true =>
    obtain ⟨rfl, rfl⟩ := run_done_iff.mp run
    exact .nil
  | false =>
    obtain ⟨answer, rest, hrest, rfl⟩ := run_ask_iff.mp run
    cases answer with
    | error e =>
      obtain ⟨rfl, rfl⟩ := run_done_iff.mp hrest
      exact .refused call [] e context
    | ok v =>
      obtain ⟨rfl, rfl⟩ := run_done_iff.mp hrest
      exact .accepted v .nil

/-- A dialogue that sends calls and then, where they did not fail, others. -/
theorem of_bind {d : Dialogue Outside (Except EngineError Unit)}
    {f : Except EngineError Unit → Dialogue Outside (Except EngineError Unit)}
    (hd : ∀ {log out}, Run d log out → Sent calls log out)
    (herror : ∀ e, f (.error e) = pure (.error e))
    (hok : ∀ {log out}, Run (f (.ok ())) log out → Sent calls' log out)
    (run : Run (d >>= f) log out) : Sent (calls ++ calls') log out := by
  obtain ⟨first, rest, middle, hfirst, hrest, rfl⟩ := Run.bind.mp run
  cases middle with
  | error e =>
    rw [herror] at hrest
    obtain ⟨rfl, rfl⟩ := run_done_iff.mp hrest
    rw [List.append_nil]
    exact (hd hfirst).cut calls'
  | ok _ => exact (hd hfirst).append (hok hrest)

theorem of_send {id crn : String} {patch : Patch} {tags : List String × List String}
    (run : Run (send id crn patch tags) log out) : Sent (sends id crn patch tags) log out := by
  unfold sends
  rw [List.append_assoc]
  unfold send at run
  refine of_bind of_callUnless ?_ ?_ run
  · intro e
    rfl
  · intro log out run
    refine of_bind of_callUnless ?_ ?_ run
    · intro e
      rfl
    · intro log out run
      exact of_callUnless run

end Sent

/-- What a run makes of the calls that are due, some of which have taken effect. -/
structure Advances (calls : List Cloud.Call) (log : List (Exchange Outside))
    (done : List Cloud.Call) (result : Except EngineError Unit) : Prop where
  /-- The calls that are made are the first ones. -/
  made : mutations log <+: calls
  /-- So are those that take effect. -/
  taken : done <+: calls
  /-- A run that succeeds leaves none. -/
  all : result = .ok () → done = calls
  /-- A run in which no call fails succeeds. -/
  succeeds : (∀ x ∈ log, ¬ Refused x) → result = .ok ()

theorem mutations_cons {answer : Except Failure call.Result} (hc : reads (.cloud call) = false) :
    mutations (⟨.cloud call, answer⟩ :: log) = call :: mutations log := by
  unfold mutations
  rw [List.filterMap_cons]
  simp [hc]

/-- The cloud tells of the instance as it is. -/
theorem serves_told {answer : Except Failure Remote}
    (hs : Serves c s (⟨.cloud (.controller (.getInstance c.id)), answer⟩ :: log) done) :
    answer = .ok s ∧ Serves c s log done := by
  cases hs with
  | told later => exact ⟨rfl, later⟩
  | took hc => cases hc
  | lost hc => cases hc

/-- A call takes effect, or it fails. -/
theorem serves_call {answer : Except Failure call.Result} (hc : reads (.cloud call) = false)
    (hs : Serves c s (⟨.cloud call, answer⟩ :: log) done) :
    (∃ later, done = call :: later ∧ Serves c (c.effect call s) log later) ∨
      ∃ e, answer = .error e ∧ Serves c s log done := by
  cases hs with
  | told later => cases hc
  | looked q later => cases hc
  | took _ _ later => exact .inl ⟨_, rfl, later⟩
  | lost _ e later => exact .inr ⟨e, rfl, later⟩

theorem serves_lookup {q : CatalogCall} {answer : Except Failure String}
    (hs : Serves c s (⟨.cloud (.catalog q), answer⟩ :: log) done) :
    answer = c.catalog q ∧ Serves c s log done := by
  cases hs with
  | looked q later => exact ⟨rfl, later⟩
  | took hc => cases hc
  | lost hc => cases hc

/-- Names are looked up in the catalog. -/
theorem serves_looked {looked : List (Exchange Catalog)}
    (hs : Serves c s (looked.map onCatalog ++ log) done) :
    (∀ x ∈ looked, x.answer = c.catalog x.question) ∧ Serves c s log done := by
  induction looked with
  | nil => exact ⟨nofun, hs⟩
  | cons x looked ih =>
    obtain ⟨hx, hlater⟩ := serves_lookup hs
    obtain ⟨hall, hlater⟩ := ih hlater
    exact ⟨List.forall_mem_cons.mpr ⟨hx, hall⟩, hlater⟩

theorem mutations_append (first : List (Exchange Outside)) :
    mutations (first ++ log) = mutations first ++ mutations log :=
  List.filterMap_append

/-- The instance that is fetched is the one that the cloud holds. -/
theorem fetch_served {first : List (Exchange Outside)}
    {found : Except EngineError (Option Remote)} (hp : s.state.isPresent = true)
    (run : Run (fetch c.id) first found) (hs : Serves c s (first ++ log) done) :
    found = .ok (some s) ∧ mutations first = [] ∧ Serves c s log done := by
  obtain ⟨answer, rest, hrest, rfl⟩ := run_ask_iff.mp run
  rw [List.cons_append] at hs
  obtain ⟨rfl, hlater⟩ := serves_told hs
  obtain ⟨rfl, rfl⟩ := run_done_iff.mp hrest
  rw [if_pos hp]
  exact ⟨rfl, rfl, hlater⟩

/-- A dialogue with the catalog ends as the catalog of the cloud has it. -/
theorem catalog_served {α : Type} {d : Dialogue Catalog α} {first : List (Exchange Outside)} {a : α}
    (run : Run (ofCatalog d) first a) (hs : Serves c s (first ++ log) done) :
    a = d.run c.catalog ∧ mutations first = [] ∧ Serves c s log done := by
  obtain ⟨looked, hlooked, rfl⟩ := run_ofCatalog_iff.mp run
  obtain ⟨hanswers, hlater⟩ := serves_looked hs
  have hreads : mutations (looked.map onCatalog) = [] := by
    unfold mutations
    rw [List.filterMap_eq_nil_iff]
    intro x hx
    obtain ⟨y, -, rfl⟩ := List.mem_map.mp hx
    rfl
  exact ⟨hlooked.eq_run hanswers, hreads, hlater⟩

/-- Calls that are sent to a cloud that holds the instance. -/
theorem Sent.advances {out : Except EngineError Unit} (h : Sent calls log out)
    (hc : ∀ call ∈ calls, reads (.cloud call) = false) (hs : Serves c s log done) :
    Advances calls log done out := by
  induction h generalizing s done with
  | nil =>
    cases hs
    exact ⟨List.prefix_rfl, List.prefix_rfl, fun _ => rfl, fun _ => rfl⟩
  | @accepted call calls log out v later ih =>
    obtain ⟨hcall, hcalls⟩ := List.forall_mem_cons.mp hc
    rcases serves_call hcall hs with ⟨done, rfl, hlater⟩ | ⟨e, he, -⟩
    · have h := ih hcalls hlater
      refine ⟨?_, List.cons_prefix_cons.mpr ⟨rfl, h.taken⟩, ?_, ?_⟩
      · rw [mutations_cons hcall]
        exact List.cons_prefix_cons.mpr ⟨rfl, h.made⟩
      · intro hok
        rw [h.all hok]
      · intro hall
        exact h.succeeds (List.forall_mem_cons.mp hall).2
    · cases he
  | refused call calls e context =>
    have hcall : reads (.cloud call) = false := hc call List.mem_cons_self
    have hmade : mutations [⟨.cloud call, .error e⟩] <+: call :: calls := by
      rw [mutations_cons hcall]
      exact List.cons_prefix_cons.mpr ⟨rfl, List.nil_prefix⟩
    have hrefused : (∀ x ∈ [(⟨.cloud call, .error e⟩ : Exchange Outside)], ¬ Refused x) → False :=
      fun hall => hall _ List.mem_cons_self hcall
    refine ⟨hmade, ?_, nofun, fun hall => (hrefused hall).elim⟩
    rcases serves_call hcall hs with ⟨done, rfl, hlater⟩ | ⟨e', -, hlater⟩
    · cases hlater
      exact List.cons_prefix_cons.mpr ⟨rfl, List.nil_prefix⟩
    · cases hlater
      exact List.nil_prefix

theorem not_reads_sends {id crn : String} {patch : Patch} {tags : List String × List String} :
    ∀ call ∈ sends id crn patch tags, reads (.cloud call) = false := by
  have hite : ∀ (skip : Bool) (call' : Cloud.Call), reads (.cloud call') = false →
      ∀ call ∈ (if skip then [] else [call']), reads (.cloud call) = false := by
    intro skip call' hc call hcall
    cases skip with
    | true => cases hcall
    | false => rwa [List.mem_singleton.mp hcall]
  intro call hcall
  unfold sends at hcall
  rcases List.mem_append.mp hcall with hcall | hcall
  · rcases List.mem_append.mp hcall with hcall | hcall
    · exact hite _ _ rfl call hcall
    · exact hite _ _ rfl call hcall
  · exact hite _ _ rfl call hcall

/-- What a run of an update makes of the calls that are due. -/
theorem advances_of_update {o : Outcome .resourceInstance Unit} (hid : r.externalName = some c.id)
    (h : Updatable c r.spec.forProvider s) (run : Run (update r) log o) (hs : Serves c s log done) :
    Advances (due c r.spec.forProvider s) log done o.result := by
  obtain ⟨plan, planId, hl⟩ := h.lists
  unfold update at run
  rw [hid] at run
  obtain ⟨first, later, found, hfound, hlater, rfl⟩ := Run.bind.mp run
  obtain ⟨rfl, hfirst, hafter⟩ := fetch_served h.present hfound hs
  obtain ⟨asked, later, patch, hpatch, hsent, rfl⟩ := Run.bind.mp hlater
  obtain ⟨hanswer, hasked, hleft⟩ := catalog_served hpatch hafter
  obtain rfl : patch = .ok (r.spec.forProvider.patchFor s plan planId) :=
    hanswer.trans (run_patch hl)
  obtain ⟨sent, rest, out, hsend, hend, rfl⟩ := Run.bind.mp hsent
  obtain ⟨rfl, rfl⟩ := run_done_iff.mp hend
  rw [List.append_nil] at hleft ⊢
  rw [due_eq hl]
  have hadvances := (Sent.of_send hsend).advances not_reads_sends hleft
  have hmade : mutations (first ++ (asked ++ sent)) = mutations sent := by
    rw [mutations_append, mutations_append, hfirst, hasked]
    rfl
  refine ⟨?_, hadvances.taken, hadvances.all, ?_⟩
  · rw [hmade]
    exact hadvances.made
  · intro hall
    exact hadvances.succeeds fun x hx =>
      hall x (List.mem_append_right _ (List.mem_append_right _ hx))

/-- Questions that an update of the instance with this id may ask. -/
inductive Asks (id : String) : OutsideCall → Prop where
  | fetch : Asks id (.cloud (.controller (.getInstance id)))
  | catalog (q : CatalogCall) : Asks id (.cloud (.catalog q))
  | update (patch : Patch) : Asks id (.cloud (.controller (.updateInstance id patch)))
  | attach (crn : String) (tags : List String) :
    Asks id (.cloud (.controller (.attachTags crn tags)))
  | detach (crn : String) (tags : List String) :
    Asks id (.cloud (.controller (.detachTags crn tags)))

theorem asks_callUnless {id : String} {skip : Bool} {context : String}
    (hc : Asks id (.cloud call)) :
    Confined (Asks id) (fun _ => True) (callUnless skip context call) := by
  unfold callUnless
  exact confined_ite trivial (confined_cloud hc (fun _ => trivial) fun _ => trivial)

theorem asks_update (hid : r.externalName = some c.id) :
    Confined (Asks c.id) (fun _ => True) (update r) := by
  unfold update
  rw [hid]
  have hfetch : Confined (Asks c.id) (fun _ => True) (fetch c.id) := by
    refine confined_cloud .fetch (fun e => ?_) fun v => trivial
    exact confined_ite trivial trivial
  refine confined_bind hfetch fun found => ?_
  rcases found with e | _ | remote
  · trivial
  · trivial
  · refine confined_bind (confined_ofCatalog .catalog _) fun patch => ?_
    cases patch with
    | error e => trivial
    | ok patch =>
      refine confined_bind (confined_bind (asks_callUnless (.update _)) fun out => ?_)
        fun _ => trivial
      cases out with
      | error e => trivial
      | ok _ =>
        refine confined_bind (asks_callUnless (.attach _ _)) fun out => ?_
        cases out with
        | error e => trivial
        | ok _ => exact asks_callUnless (.detach _ _)

theorem not_refused_of_reads {x : Exchange Outside} (h : reads x.question = true) :
    ¬ Refused x := by
  intro hx
  obtain ⟨q, answer⟩ := x
  cases q with
  | lookup k q => exact hx
  | cloud call =>
    cases answer with
    | ok v => exact hx
    | error e => exact Bool.false_ne_true (hx.symm.trans h)

/-- What an update asks is told, or it is a call that the cloud may carry out. -/
theorem served_of_asks {q : OutsideCall} (hq : Asks c.id q) (s : Remote) :
    (∃ answer, ¬ Refused ⟨q, answer⟩ ∧
      ∀ {log done}, Serves c s log done → Serves c s (⟨q, answer⟩ :: log) done) ∨
    ∃ call, q = .cloud call ∧ reads (.cloud call) = false ∧ Nonempty call.Result := by
  cases hq with
  | fetch => exact .inl ⟨.ok s, id, .told⟩
  | catalog q => exact .inl ⟨c.catalog q, not_refused_of_reads rfl, .looked q⟩
  | update patch => exact .inr ⟨_, rfl, rfl, ⟨s⟩⟩
  | attach crn tags => exact .inr ⟨_, rfl, rfl, ⟨()⟩⟩
  | detach crn tags => exact .inr ⟨_, rfl, rfl, ⟨()⟩⟩

/-- A cloud that holds the instance can carry out what asks for no more than an update does, and can
refuse all that comes after so many calls. -/
theorem exists_served {α : Type} {d : Dialogue Outside α}
    (hd : Confined (Asks c.id) (fun _ => True) d) (s : Remote) (n : Nat) :
    ∃ log done a, Run d log a ∧ Serves c s log done ∧ done.length ≤ n ∧
      (done.length < n → ∀ x ∈ log, ¬ Refused x) := by
  induction d generalizing s n with
  | done a => exact ⟨[], [], a, .done a, .nil s, Nat.zero_le n, fun _ => List.forall_mem_nil _⟩
  | ask q next ih =>
    obtain ⟨hq, hnext⟩ := hd
    rcases served_of_asks hq s with ⟨answer, haccepted, hserves⟩ | ⟨call, rfl, hc, ⟨v⟩⟩
    · obtain ⟨log, done, a, run, hs, hle, hall⟩ := ih answer (hnext answer trivial) s n
      exact ⟨_, done, a, .ask q answer run, hserves hs, hle,
        fun hlt => List.forall_mem_cons.mpr ⟨haccepted, hall hlt⟩⟩
    · cases n with
      | zero =>
        obtain ⟨log, done, a, run, hs, hle, -⟩ := ih (.error .http) (hnext _ trivial) s 0
        exact ⟨_, done, a, .ask _ _ run, .lost hc .http hs, hle, fun hlt => absurd hlt (by omega)⟩
      | succ n =>
        obtain ⟨log, done, a, run, hs, hle, hall⟩ :=
          ih (.ok v) (hnext _ trivial) (c.effect call s) n
        refine ⟨_, call :: done, a, .ask _ _ run, .took hc (.ok v) hs, ?_, fun hlt => ?_⟩
        · rw [List.length_cons]
          omega
        · rw [List.length_cons] at hlt
          exact List.forall_mem_cons.mpr ⟨id, hall (by omega)⟩

/-! ## Updates that are cut off -/

/-- An update of an instance in this state makes these calls. -/
structure Makes (c : Host) (r : Managed .resourceInstance) (s : Remote)
    (calls : List Cloud.Call) : Prop where
  /-- It can succeed, and then all of them have taken effect. -/
  possible : ∃ log o, Run (update r) log o ∧ Serves c s log calls ∧ o.result = .ok ()
  /-- However it goes, it makes the first ones of them. -/
  advances : ∀ {log done o}, Run (update r) log o → Serves c s log done →
    Advances calls log done o.result

/-- An update makes the calls that are due. -/
theorem makes_due (hid : r.externalName = some c.id) (h : Updatable c r.spec.forProvider s) :
    Makes c r s (due c r.spec.forProvider s) where
  possible := by
    obtain ⟨log, done, o, run, hs, -, hall⟩ :=
      exists_served (asks_update hid) s ((due c r.spec.forProvider s).length + 1)
    have hadvances := advances_of_update hid h run hs
    have hle : done.length ≤ (due c r.spec.forProvider s).length := hadvances.taken.length_le
    have hok : o.result = .ok () := hadvances.succeeds (hall (by omega))
    rw [← hadvances.all hok]
    exact ⟨log, o, run, hs, hok⟩
  advances := advances_of_update hid h

/-- Updates that are cut off have together made the first calls that were due. -/
theorem prefix_of_updates (hid : r.externalName = some c.id)
    (h : Updatable c r.spec.forProvider s) (hu : Updates c r s done) :
    done <+: due c r.spec.forProvider s := by
  induction hu with
  | none s => exact List.nil_prefix
  | @more s log o first rest run served later ih =>
    obtain ⟨left, hleft⟩ := (advances_of_update hid h run served).taken
    obtain ⟨hnext, hdue⟩ := due_effects h hleft.symm
    have hrest : rest <+: left := hdue ▸ ih hnext
    rw [← hleft]
    exact (List.prefix_append_right_inj first).mpr hrest

/-- An update can be cut off after each of its calls. -/
theorem updates_of_prefix (hid : r.externalName = some c.id)
    (h : Updatable c r.spec.forProvider s) (hd : done <+: due c r.spec.forProvider s) :
    Updates c r s done := by
  obtain ⟨log, first, o, run, hs, hle, hall⟩ := exists_served (asks_update hid) s done.length
  have hadvances := advances_of_update hid h run hs
  have hfirst : first = done := by
    have hprefix : first <+: done := List.prefix_of_prefix_length_le hadvances.taken hd hle
    refine hprefix.eq_of_length (Nat.le_antisymm hle ?_)
    by_contra hlt
    -- nothing was refused, so that all has been made
    have hdue : first = due c r.spec.forProvider s :=
      hadvances.all (hadvances.succeeds (hall (by omega)))
    have hlength : done.length ≤ first.length := hdue ▸ hd.length_le
    exact hlt hlength
  have hmore := Updates.more run hs (.none _)
  rwa [List.append_nil, hfirst] at hmore

theorem Host.effects_append (c : Host) (first rest : List Cloud.Call) (s : Remote) :
    c.effects (first ++ rest) s = c.effects rest (c.effects first s) :=
  List.foldl_append

/-- **Updates of an instance converge, also after a partial failure.** An update makes the calls that
are due. Where updates are cut off, each after a call or before it, the calls that have taken effect
are the first ones of these, as many as there may be. The update that follows makes those that
remain, and comes to the same instance. In that instance nothing disagrees, no tags are to be
changed, and a further update does no more than read. -/
theorem interrupted_updates_converge (hid : r.externalName = some c.id)
    (h : Updatable c r.spec.forProvider s) :
    Makes c r s (due c r.spec.forProvider s) ∧
      (∀ done, Updates c r s done ↔ done <+: due c r.spec.forProvider s) ∧
      (∀ done rest, due c r.spec.forProvider s = done ++ rest →
        Makes c r (c.effects done s) rest ∧
        c.effects rest (c.effects done s) = c.effects (due c r.spec.forProvider s) s) ∧
      ∀ s', s' = c.effects (due c r.spec.forProvider s) s →
        (Parameters.changedFields r.spec.forProvider s').run c.catalog = .ok [] ∧
        Parameters.tagChanges r.spec.forProvider s' = ([], []) ∧ Makes c r s' [] := by
  have hresumed : ∀ done rest, due c r.spec.forProvider s = done ++ rest →
      Makes c r (c.effects done s) rest := by
    intro done rest hd
    obtain ⟨hnext, hdue⟩ := due_effects h hd
    have hmakes := makes_due hid hnext
    rwa [hdue] at hmakes
  refine ⟨makes_due hid h, ?_, ?_, ?_⟩
  · exact fun done => ⟨prefix_of_updates hid h, updates_of_prefix hid h⟩
  · intro done rest hd
    refine ⟨hresumed done rest hd, ?_⟩
    rw [hd, Host.effects_append]
  · rintro s' rfl
    have hall : due c r.spec.forProvider s = due c r.spec.forProvider s ++ [] :=
      (List.append_nil _).symm
    obtain ⟨hend, hdue⟩ := due_effects h hall
    obtain ⟨hfields, htags⟩ := settled_of_due_nil hend hdue
    exact ⟨hfields, htags, hresumed _ _ hall⟩

/-- A declared instance. -/
def movedInstance : Managed .resourceInstance where
  metadata := { Metadata.empty with annotations := some [(Metadata.externalNameKey, "i-1")] }
  spec := ⟨(⟨"db", "us-south", "default", "databases", "standard", some ["team-a", "prod"], none,
    some (.object [("nodes", .ofInt 3)]), none⟩ : Parameters), .delete, none, ()⟩
  status := none

/-- The instance in the cloud: it has another plan, fewer nodes, and one tag in place of another. -/
def heldInstance : Remote :=
  ⟨"i-1", "", "crn-1", "", "db", "", "", "", "plan-1", "", "us-south", .active, false, false,
    some (.object [("nodes", .ofInt 1), ("version", .string "15")]), none, none, none,
    ["old", "prod"]⟩

/-- A cloud with two plans that holds the instance. -/
def holdingHost : Host where
  catalog
    | .planId _ _ => .ok "plan-2"
    | .planName _ id => .ok (if id = "plan-2" then "standard" else "lite")
    | _ => .error .http
  id := "i-1"
  uptake := .merge

theorem updatable_heldInstance :
    Updatable holdingHost movedInstance.spec.forProvider heldInstance where
  service := by decide
  present := rfl
  members := by
    rintro _ ⟨⟩
    decide
  named _ := ⟨_, rfl⟩
  found _ := ⟨_, rfl⟩
  inverse := by
    rintro _ ⟨⟩
    exact ⟨by decide, rfl⟩

/-- The call that moves the instance to its plan. -/
def moveCall : Cloud.Call :=
  .controller (.updateInstance "i-1"
    [("parameters", .object [("nodes", .ofInt 3)]), ("resource_plan_id", .string "plan-2")])

/-- The call that attaches a tag. -/
def attachCall : Cloud.Call :=
  .controller (.attachTags "crn-1" ["team-a"])

/-- The call that detaches a tag. -/
def detachCall : Cloud.Call :=
  .controller (.detachTags "crn-1" ["old"])

/-- An update that is cut off after its first call is completed by the next one. -/
theorem movedInstance_resumed :
    Makes holdingHost movedInstance heldInstance [moveCall, attachCall, detachCall] ∧
      Updates holdingHost movedInstance heldInstance [moveCall] ∧
      Makes holdingHost movedInstance (holdingHost.effects [moveCall] heldInstance)
        [attachCall, detachCall] ∧
      holdingHost.effects [moveCall, attachCall, detachCall] heldInstance =
        { heldInstance with
          resourcePlanId := "plan-2"
          parameters := some (.object [("nodes", .ofInt 3), ("version", .string "15")])
          tags := ["prod", "team-a"] } ∧
      Makes holdingHost movedInstance
        (holdingHost.effects [moveCall, attachCall, detachCall] heldInstance) [] := by
  have hid : movedInstance.externalName = some holdingHost.id := by decide +kernel
  have hpatch : (Parameters.patch movedInstance.spec.forProvider heldInstance).run
      holdingHost.catalog = .ok [("parameters", .object [("nodes", .ofInt 3)]),
        ("resource_plan_id", .string "plan-2")] := by decide +kernel
  have htags : Parameters.tagChanges movedInstance.spec.forProvider heldInstance =
      (["team-a"], ["old"]) := by decide +kernel
  have hdue : due holdingHost movedInstance.spec.forProvider heldInstance =
      [moveCall, attachCall, detachCall] := by
    unfold due
    rw [hpatch, htags]
    rfl
  obtain ⟨hmakes, hupdates, hresumed, hend⟩ :=
    interrupted_updates_converge hid updatable_heldInstance
  rw [hdue] at hmakes hupdates hresumed hend
  refine ⟨hmakes, (hupdates [moveCall]).mpr ⟨_, rfl⟩, (hresumed [moveCall] _ rfl).1, ?_,
    (hend _ rfl).2.2⟩
  decide +kernel

end ResourceOperator.ResourceInstance
