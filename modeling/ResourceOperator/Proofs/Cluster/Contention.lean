import Mathlib.Logic.Relation
import ResourceOperator.Cluster.Call
import ResourceOperator.Cluster.Store
import ResourceOperator.Proofs.Json.Names
import ResourceOperator.Proofs.Json.Text
import ResourceOperator.Proofs.Managed

/-!
# Finalizers under contention

Any number of calls change the finalizers of one object, while others write to it. The server gives
the object a version that it has never had at every write, and it applies a patch that names a
version only while that is the current one. `Step` is one move of the whole: a call starts, one of
its requests is served, or someone else writes.

A call reads the list, and what it writes is computed from the list it read. What carries every
result is `Stands`: while a call waits for its patch, either the object is still the one that it
read, or the version that it read has passed.

Results:
* `perform_upkeep`: a call reads once and patches at most once.
* `Upkeep.apply_call`: `Call.apply` gives the object the list that the call writes.
* `stands_reachable`: where every call stands in every state that can be reached.
* `finalizers_never_lost`: what calls do to the list of finalizers.
-/

namespace ResourceOperator.Cluster

open Json

/-! ## The server and its callers -/

/-- The version of a stored object, or the one that a patch names. -/
def storedVersion (stored : Json) : Option String :=
  ((stored.get? "metadata").bind (·.get? "resourceVersion")).bind string?

/-- The object with a new version. -/
def stamp (version : String) (stored : Json) : Json :=
  stored.merge (.object [("metadata", .object [("resourceVersion", .string version)])])

/-- An object on the server, and the versions that it has had. -/
structure Held where
  object : Json
  issued : List String

/-- What became of a request. -/
inductive Turn where
  /-- The object was read. -/
  | saw (object : Json)
  /-- A patch was applied. -/
  | applied (before after : Json)
  /-- The request was refused or lost, and nothing was done. -/
  | failed

/-- How the server may serve a request: the response, what became of it, and the object then. -/
inductive Served (s : Held) (q : Net.Request String) :
    Option Net.Response → Turn → Held → Prop where
  /-- A read is answered with the object as it is. -/
  | read (hq : q.method = .get) {r : Net.Response} (hr : r.isFailure = false)
      (hb : Json.parse r.body = some s.object) : Served s q (some r) (.saw s.object) s
  /-- A patch that names no version or the current one is applied, and the object gets a new
  version. The response may be any, and may be lost. -/
  | applied (hq : q.method = .patch) (ht : q.contentType = some Net.mergePatchType) {patch : Json}
      (hb : q.body.bind Json.parse = some patch)
      (hv : ∀ v, storedVersion patch = some v → storedVersion s.object = some v) {version : String}
      (hn : version ∉ s.issued) (answer : Option Net.Response) :
      Served s q answer (.applied s.object (stamp version (s.object.merge patch)))
        ⟨stamp version (s.object.merge patch), version :: s.issued⟩
  /-- A request is refused, or lost. -/
  | failed {answer : Option Net.Response} (hr : ∀ r, answer = some r → r.isFailure = true) :
      Served s q answer .failed s

/-- The two ways to change the operator's finalizer. -/
inductive Upkeep where
  | add
  | remove

namespace Upkeep

/-- The call that carries out the change. -/
def call (name : String) : Upkeep → Call
  | add => .addFinalizer name
  | remove => .removeFinalizer name

/-- What the change makes of a list. -/
def change : Upkeep → List String → List String
  | add => withFinalizer
  | remove => withoutFinalizer

/-- What the change makes of a stored list that needs it. -/
def onStored : Upkeep → List Json → List Json
  | add, stored => stored ++ [.string finalizer]
  | remove, stored => stored.filter (· != .string finalizer)

/-- The stored list needs no change. -/
def Met : Upkeep → List Json → Prop
  | add, stored => .string finalizer ∈ stored
  | remove, stored => .string finalizer ∉ stored

end Upkeep

/-- What is left of a call. -/
abbrev Rest := Dialogue Server (Except Failure Unit)

/-- A call on its way: what is left of it, and what became of its requests. -/
structure Session where
  upkeep : Upkeep
  rest : Rest
  turns : List Turn

/-- The object on the server, and the calls on their way. -/
structure Contest where
  held : Held
  sessions : List Session

/-- One move of a call, of the server, or of another writer. -/
inductive Step (k : Kind) (name : String) : Contest → Contest → Prop where
  /-- A call starts. -/
  | start (held : Held) (sessions : List Session) (u : Upkeep) :
      Step k name ⟨held, sessions⟩ ⟨held, sessions ++ [⟨u, perform k (u.call name), []⟩]⟩
  /-- A request is served, and its call goes on with the response. -/
  | serve {held held' : Held} {sessions : List Session} {i : Nat} {u : Upkeep}
      {q : Net.Request String} {next : Option Net.Response → Rest}
      {turns : List Turn} (hi : sessions[i]? = some ⟨u, .ask q next, turns⟩)
      {answer : Option Net.Response} {turn : Turn} (hs : Served held q answer turn held') :
      Step k name ⟨held, sessions⟩ ⟨held', sessions.set i ⟨u, next answer, turns ++ [turn]⟩⟩
  /-- Someone else writes. -/
  | write (held : Held) (sessions : List Session) (object : Json) {version : String}
      (hn : version ∉ held.issued) (ho : storedVersion object = some version) :
      Step k name ⟨held, sessions⟩ ⟨⟨object, version :: held.issued⟩, sessions⟩

/-! ## What a call asks -/

/-- What a response is taken for. -/
def received {α : Type} (decode : Json → Option α) : Option Net.Response → Except Failure α
  | none => .error .unanswered
  | some r =>
    if r.isFailure then .error (.answered (Report.ofResponse r))
    else match (Json.parse r.body).bind decode with
      | some a => .ok a
      | none => .error .unanswered

section Requests

variable {α : Type} {decode : Json → Option α}

/-- An exchange asks one question, if its target can be sent. -/
theorem exchangeFor_eq (decode : Json → Option α) (request : Net.Request String) :
    exchangeFor decode request = match Net.target? request.address with
      | none => .done (.error .unanswered)
      | some target =>
        .ask { request with address := target } fun answer => .done (received decode answer) := by
  rw [exchangeFor, exchange]
  cases Net.target? request.address with
  | none => rfl
  | some target =>
    refine congrArg (Dialogue.ask _) (funext fun answer => ?_)
    cases answer with
    | none => rfl
    | some r =>
      show Dialogue.bind (.done (if r.isFailure then _ else _)) _ = .done (received decode (some r))
      rw [Dialogue.done_bind, received]
      cases r.isFailure with
      | true => rfl
      | false =>
        simp only [Bool.false_eq_true, if_false]
        cases (Json.parse r.body).bind decode <;> rfl

/-- A refused or lost request is taken for an error. -/
theorem received_failed (decode : Json → Option α) {answer : Option Net.Response}
    (hr : ∀ r, answer = some r → r.isFailure = true) : ∃ e, received decode answer = .error e := by
  cases answer with
  | none => exact ⟨_, rfl⟩
  | some r => exact ⟨_, if_pos (hr r rfl)⟩

/-- A response with an object is taken for what the object is read as. -/
theorem received_read {r : Net.Response} {v : Json} (hr : r.isFailure = false)
    (hb : Json.parse r.body = some v) :
    received decode (some r) = match decode v with
      | some a => .ok a
      | none => .error .unanswered := by
  simp [received, hr, hb]

end Requests

section Calls

variable {k : Kind} {name : String} {u : Upkeep}

/-- What a call does with the object that it read. -/
def settle (name : String) (u : Upkeep) (r : Managed k) : Rest :=
  let before := r.metadata.finalizerList
  if u.change before = before then pure (.ok ())
  else void (mergeInto k name "" (finalizerPatch r.metadata.resourceVersion (u.change before)))

/-- A call reads the object once, if it can be asked for, and goes on with what it read. -/
theorem perform_upkeep (k : Kind) (name : String) (u : Upkeep) :
    perform k (u.call name) = .done (.error .unanswered) ∨
      ∃ (q : Net.Request String) (next : Option Net.Response → Rest),
        perform k (u.call name) = .ask q next ∧ q.method = .get ∧ ∀ answer,
        next answer = match received (Managed.decode k) answer with
          | .error e => .done (.error e)
          | .ok r => settle name u r := by
  have hperform : perform k (u.call name) = (getObject k name).bind fun
      | .error e => .done (.error e)
      | .ok r => settle name u r := by
    have hchange : perform k (u.call name) = changeFinalizers k name u.change := by
      cases u <;> rfl
    rw [hchange, changeFinalizers]
    refine congrArg (Dialogue.bind _) (funext fun x => ?_)
    cases x with
    | error e => rfl
    | ok r =>
      refine ite_congr rfl (fun _ => rfl) fun _ => ?_
      refine congrArg (Dialogue.bind _) (funext fun x => ?_)
      cases x <;> rfl
  rw [hperform, getObject, forNamed]
  split
  · exact .inl rfl
  · rw [exchangeFor_eq]
    cases Net.target? (getRequest (objectPath k name)).address with
    | none => exact .inl rfl
    | some target => exact .inr ⟨_, _, rfl, rfl, fun _ => rfl⟩

/-- A call that needs no change ends with success. -/
theorem settle_done {r : Managed k}
    (h : u.change r.metadata.finalizerList = r.metadata.finalizerList) :
    settle name u r = .done (.ok ()) := if_pos h

/-- A call that needs a change patches once, with the version that it read, and ends. -/
theorem settle_patch {r : Managed k}
    (h : u.change r.metadata.finalizerList ≠ r.metadata.finalizerList) :
    settle name u r = .done (.error .unanswered) ∨
      ∃ (q : Net.Request String) (next : Option Net.Response → Rest),
        settle name u r = .ask q next ∧
        (q.method = .patch ∧ q.contentType = some Net.mergePatchType) ∧
        q.body = some (finalizerPatch r.metadata.resourceVersion
          (u.change r.metadata.finalizerList)).render ∧
        ∀ answer, next answer =
          .done ((received (Managed.decode k) answer).map fun _ => ()) := by
  rw [settle]
  simp only [if_neg h]
  rw [void, mergeInto, forNamed]
  split
  · exact .inl rfl
  · rw [exchangeFor_eq, patchRequest]
    cases Net.target? (objectPath k name ++ "" ++ "?&fieldManager=" ++ fieldManager) with
    | none => exact .inl rfl
    | some target =>
      refine .inr ⟨_, _, rfl, ⟨rfl, rfl⟩, rfl, fun answer => ?_⟩
      show Dialogue.bind (.done (received (Managed.decode k) answer)) _ = _
      rw [Dialogue.done_bind]
      cases received (Managed.decode k) answer <;> rfl

end Calls

/-! ## The list of finalizers -/

/-- What is read as the finalizers is what is stored as them. -/
theorem storedFinalizers_of_decode {k : Kind} {stored : Json} {r : Managed k} {version : String}
    (hv : storedVersion stored = some version) (h : Managed.decode k stored = some r) :
    storedFinalizers stored = r.metadata.finalizerList.map .string ∧
      r.metadata.resourceVersion = some version := by
  obtain ⟨v, hv, hs⟩ := Option.bind_eq_some_iff.mp hv
  obtain ⟨metadata, hm, hv⟩ := Option.bind_eq_some_iff.mp hv
  cases stored with
  | object members =>
    obtain ⟨metadata', hm', hd⟩ := Option.bind_eq_some_iff.mp (Managed.decode_object.mp h).1
    obtain rfl : metadata' = metadata := Option.some.inj (hm'.symm.trans hm)
    obtain ⟨fields, rfl⟩ := Metadata.object_of_decode hd
    obtain ⟨-, -, -, -, hf, -, -, -, -, -, -, -, hversion, -⟩ := Metadata.decode_object.mp hd
    constructor
    · have hfound : ((Json.object members).get? "metadata").bind (·.get? "finalizers") =
          Table.get? "finalizers" fields := by
        rw [hm]
        rfl
      rw [storedFinalizers, hfound, Metadata.finalizerList]
      cases hr : r.metadata.finalizers with
      | none =>
        rw [hr, optionalField_eq_some_none] at hf
        rcases hf with hf | hf <;> rw [hf] <;> rfl
      | some fs =>
        rw [hr, optionalField_eq_some_some] at hf
        obtain ⟨w, hw, -, hfs⟩ := hf
        rw [hw, list_text_eq_some.mp hfs]
        rfl
    · change Table.get? "resourceVersion" fields = some v at hv
      cases v with
      | string s =>
        cases hs
        rw [hv] at hversion
        exact (Option.some.inj hversion).symm
      | _ => cases hs
  | _ => cases hm

/-- The patch of the finalizers can be read from its text. -/
theorem parse_finalizerPatch (version : Option String) (finalizers : List String) :
    Json.parse (finalizerPatch version finalizers).render =
      some (finalizerPatch version finalizers) := by
  have hitems : Wordy 125 (ofStrings finalizers) := by
    rw [ofStrings, Wordy]
    induction finalizers with
    | nil => trivial
    | cons f rest ih => exact ⟨trivial, ih⟩
  have hcanonical : (finalizerPatch version finalizers).Canonical :=
    canonical_of_names names_single (List.pairwise_singleton _ _)
      ⟨canonical_of_names names_member.cons (by decide) (by simp), trivial⟩
  refine parse_render hcanonical ?_
  cases version <;> simp [finalizerPatch, Wordy, WordyMembers, hitems]

/-- A patch of the finalizers replaces the list. -/
theorem storedFinalizers_patch (version : Option String) (finalizers : List String)
    (stored : Json) :
    storedFinalizers (stored.merge (finalizerPatch version finalizers)) =
      finalizers.map .string := by
  have hkeys : (Table.keys (("finalizers", ofStrings finalizers) ::
      member "resourceVersion" (version.map .string))).Nodup := by
    cases version <;> simp [Table.keys]
  rw [storedFinalizers, finalizerPatch, get?_merge _ (by simp [Table.keys])]
  simp only [Table.get?_cons, if_true, mergeField_object, Option.bind_some]
  rw [get?_merge _ hkeys]
  simp [mergeField, ofStrings, merge]

theorem storedVersion_finalizerPatch (version : Option String) (finalizers : List String) :
    storedVersion (finalizerPatch version finalizers) = version := by
  cases version <;> rfl

/-- A new version leaves the finalizers as they are. -/
theorem storedFinalizers_stamp (version : String) (stored : Json) :
    storedFinalizers (stamp version stored) = storedFinalizers stored := by
  rw [storedFinalizers, storedFinalizers, stamp, get?_merge _ (by simp [Table.keys])]
  simp only [Table.get?_cons, if_true, mergeField_object, Option.bind_some]
  rw [get?_merge _ (by simp [Table.keys])]
  cases stored.get? "metadata" <;> simp [get?]

theorem storedVersion_stamp (version : String) (stored : Json) :
    storedVersion (stamp version stored) = some version := by
  rw [storedVersion, stamp, get?_merge _ (by simp [Table.keys])]
  simp only [Table.get?_cons, if_true, mergeField_object, Option.bind_some]
  rw [get?_merge _ (by simp [Table.keys])]
  rfl

/-- A change of the list that was read is the same change of the list that is stored. -/
theorem Upkeep.onStored_map {u : Upkeep} {fs : List String} (h : u.change fs ≠ fs) :
    u.onStored (fs.map .string) = (u.change fs).map .string := by
  cases u with
  | add =>
    have hf : ¬ fs.contains finalizer := fun hf => h (if_pos hf)
    rw [onStored, change, withFinalizer, if_neg hf, List.map_append]
    rfl
  | remove =>
    rw [onStored, change, withoutFinalizer, List.filter_map]
    refine congrArg _ (List.filter_congr fun f _ => ?_)
    rw [Bool.eq_iff_iff]
    simp

/-- A list that was read and needs no change is stored as one that needs none. -/
theorem Upkeep.met_map {u : Upkeep} {fs : List String} (h : u.change fs = fs) :
    u.Met (fs.map .string) := by
  cases u with
  | add =>
    by_cases hf : fs.contains finalizer
    · exact List.mem_map_of_mem (List.contains_iff_mem.mp hf)
    · rw [change, withFinalizer, if_neg hf] at h
      simp at h
  | remove =>
    intro hf
    obtain ⟨f, hm, e⟩ := List.mem_map.mp hf
    cases e
    have hne := List.filter_eq_self.mp h _ hm
    simp at hne

/-- A list that is stored as one that needs no change was read as one. -/
theorem Upkeep.change_of_met_map {u : Upkeep} {fs : List String} (h : u.Met (fs.map .string)) :
    u.change fs = fs := by
  cases u with
  | add =>
    obtain ⟨f, hm, e⟩ := List.mem_map.mp h
    cases e
    exact if_pos (List.contains_iff_mem.mpr hm)
  | remove =>
    refine List.filter_eq_self.mpr fun f hf => ?_
    have hne : f ≠ finalizer := fun e => h (List.mem_map.mpr ⟨f, hf, e ▸ rfl⟩)
    simpa using hne

/-! ## The stored object -/

theorem storedFinalizers_withStored (finalizers : List Json) (stored : Json) :
    storedFinalizers (withStoredFinalizers finalizers stored) = finalizers := by
  rw [storedFinalizers, withStoredFinalizers, get?_merge _ (by simp [Table.keys])]
  simp only [Table.get?_cons, if_true, mergeField_object, Option.bind_some]
  rw [get?_merge _ (by simp [Table.keys])]
  simp [mergeField, merge]

/-- The stored object stays as it is where the list needs no change. -/
theorem Upkeep.apply_of_met {u : Upkeep} {stored : Json} (h : u.Met (storedFinalizers stored))
    (name : String) : (u.call name).apply stored = stored := by
  cases u with
  | add =>
    have hf : (storedFinalizers stored).contains (.string finalizer) := List.contains_iff_mem.mpr h
    exact if_pos (if_pos hf)
  | remove =>
    refine if_pos (List.filter_eq_self.mpr fun v hv => ?_)
    have hne : v ≠ .string finalizer := fun e => h (e ▸ hv)
    simpa using hne

/-- Where it needs one, the list is changed in the stored object. -/
theorem Upkeep.storedFinalizers_apply {u : Upkeep} {stored : Json}
    (h : ¬ u.Met (storedFinalizers stored)) (name : String) :
    storedFinalizers ((u.call name).apply stored) = u.onStored (storedFinalizers stored) := by
  cases u with
  | add =>
    have hf : ¬ (storedFinalizers stored).contains (.string finalizer) := fun hf =>
      h (List.contains_iff_mem.mp hf)
    rw [call, Call.apply, changeStored]
    simp only [if_neg hf]
    rw [if_neg (by simp), storedFinalizers_withStored, onStored]
  | remove =>
    have hf : (storedFinalizers stored).filter (· != .string finalizer) ≠
        storedFinalizers stored := fun e => h fun hm => by
      simpa using List.filter_eq_self.mp e _ hm
    rw [call, Call.apply, changeStored]
    simp only [if_neg hf]
    rw [storedFinalizers_withStored, onStored]

/-- **What a call that succeeds is taken to make of the stored object is what it asks the server
for**: the change of the list that it reads. -/
theorem Upkeep.apply_call {u : Upkeep} {stored : Json} {fs : List String}
    (h : storedFinalizers stored = fs.map .string) (name : String) :
    storedFinalizers ((u.call name).apply stored) = (u.change fs).map .string := by
  by_cases hchange : u.change fs = fs
  · rw [apply_of_met (h ▸ met_map hchange), h, hchange]
  · rw [storedFinalizers_apply fun hm => hchange (change_of_met_map (h ▸ hm)), h, onStored_map hchange]

/-! ## Where a call stands -/

/-- Where a call stands, while the server holds an object. -/
inductive Stands (k : Kind) (name : String) (held : Held) : Session → Prop where
  /-- It waits for the object that it asked for, or could not ask. -/
  | reading {u : Upkeep} {rest : Rest}
      (h : rest = perform k (u.call name)) : Stands k name held ⟨u, rest, []⟩
  /-- It waits for its patch, computed from the list that it read. -/
  | writing {u : Upkeep} {q : Net.Request String}
      {next : Option Net.Response → Rest} {seen : Json}
      {version : String} {finalizers : List String} (hversion : version ∈ held.issued)
      (hcurrent : storedVersion held.object = some version → held.object = seen)
      (hstored : storedFinalizers seen = finalizers.map .string)
      (hchange : u.change finalizers ≠ finalizers) (hq : q.method = .patch)
      (hbody : q.body = some (finalizerPatch (some version) (u.change finalizers)).render)
      (hend : ∀ answer, ∃ result, next answer = .done result)
      (hfailed : ∀ {answer}, (∀ r, answer = some r → r.isFailure = true) →
        ∃ e, next answer = .done (.error e)) :
      Stands k name held ⟨u, .ask q next, [.saw seen]⟩
  /-- It ended with an error and wrote nothing. -/
  | failed {u : Upkeep} {e : Failure} {turns : List Turn}
      (h : ∀ before after, .applied before after ∉ turns) :
      Stands k name held ⟨u, .done (.error e), turns⟩
  /-- It saw that nothing was to be done. -/
  | met {u : Upkeep} {seen : Json} (h : u.Met (storedFinalizers seen)) :
      Stands k name held ⟨u, .done (.ok ()), [.saw seen]⟩
  /-- Its patch was applied. -/
  | applied {u : Upkeep} {result : Except Failure Unit} {seen before after : Json}
      (h : storedFinalizers after = u.onStored (storedFinalizers before)) :
      Stands k name held ⟨u, .done result, [.saw seen, .applied before after]⟩

/-- The version of the object is among those that it has had. -/
def Held.Versioned (held : Held) : Prop :=
  ∃ version ∈ held.issued, storedVersion held.object = some version

section Standing

variable {k : Kind} {name : String} {held held' : Held} {c : Session}

/-- A write by anyone leaves a call where it stands: the version that it read has passed. -/
theorem Stands.later (h : Stands k name held c) {object : Json} {version : String}
    (hn : version ∉ held.issued) (ho : storedVersion object = some version) :
    Stands k name ⟨object, version :: held.issued⟩ c := by
  cases h with
  | reading h => exact .reading h
  | failed h => exact .failed h
  | met h => exact .met h
  | applied h => exact .applied h
  | writing hversion hcurrent hstored hchange hq hbody hend hfailed =>
    refine .writing (List.mem_cons_of_mem _ hversion) (fun hv => ?_) hstored hchange hq hbody hend
      hfailed
    rw [ho] at hv
    cases hv
    exact absurd hversion hn

/-- Serving a request leaves the other calls where they stand. -/
theorem Stands.served (h : Stands k name held c) {q : Net.Request String}
    {answer : Option Net.Response} {turn : Turn} (hs : Served held q answer turn held') :
    Stands k name held' c := by
  cases hs with
  | read => exact h
  | failed => exact h
  | applied _ _ _ _ hn => exact h.later hn (storedVersion_stamp _ _)

theorem Held.Versioned.served (h : held.Versioned) {q : Net.Request String}
    {answer : Option Net.Response} {turn : Turn} (hs : Served held q answer turn held') :
    held'.Versioned := by
  cases hs with
  | read => exact h
  | failed => exact h
  | applied => exact ⟨_, List.mem_cons_self, storedVersion_stamp _ _⟩

/-- A call that has read the object ends, or waits for its patch. -/
theorem stands_settle {u : Upkeep} {r : Managed k} (hv : held.Versioned)
    (hr : Managed.decode k held.object = some r) :
    Stands k name held ⟨u, settle name u r, [.saw held.object]⟩ := by
  obtain ⟨version, hissued, hversion⟩ := hv
  obtain ⟨hstored, hread⟩ := storedFinalizers_of_decode hversion hr
  by_cases hchange : u.change r.metadata.finalizerList = r.metadata.finalizerList
  · rw [settle_done hchange]
    refine .met ?_
    rw [hstored]
    exact Upkeep.met_map hchange
  · rcases settle_patch hchange with h | ⟨q, next, h, hq, hbody, hnext⟩ <;> rw [h]
    · exact .failed (by simp)
    · rw [hread] at hbody
      refine .writing hissued (fun _ => rfl) hstored hchange hq.1 hbody (fun _ => ⟨_, hnext _⟩)
        fun {answer} hanswer => ?_
      obtain ⟨e, he⟩ := received_failed (Managed.decode k) hanswer
      exact ⟨e, by rw [hnext, he]; rfl⟩

/-- A call whose request is served stands somewhere again. -/
theorem Stands.proceed {u : Upkeep} {q : Net.Request String}
    {next : Option Net.Response → Rest} {turns : List Turn}
    (h : Stands k name held ⟨u, .ask q next, turns⟩) (hv : held.Versioned)
    {answer : Option Net.Response} {turn : Turn} (hs : Served held q answer turn held') :
    Stands k name held' ⟨u, next answer, turns ++ [turn]⟩ := by
  cases h with
  | reading h =>
    rcases perform_upkeep k name u with hp | ⟨q', next', hp, hget, hnext⟩ <;> rw [hp] at h
    · cases h
    · cases h
      rw [hnext]
      cases hs with
      | read hq hr hb =>
        rw [received_read hr hb]
        cases hd : Managed.decode k held.object with
        | none => exact .failed (by simp)
        | some r => exact stands_settle hv hd
      | applied hq => exact absurd (hget.symm.trans hq) (by decide)
      | failed hr =>
        obtain ⟨e, he⟩ := received_failed (Managed.decode k) hr
        rw [he]
        exact .failed (by simp)
  | @writing _ _ _ seen version finalizers hversion hcurrent hstored hchange hq hbody hend hfailed =>
    cases hs with
    | read hget => exact absurd (hq.symm.trans hget) (by decide)
    | failed hr =>
      obtain ⟨e, he⟩ := hfailed hr
      rw [he]
      exact .failed (by simp)
    | @applied _ _ patch hb hadmitted version' _ _ =>
      obtain ⟨result, he⟩ := hend answer
      rw [he]
      refine .applied ?_
      rw [hbody, Option.bind_some, parse_finalizerPatch] at hb
      cases hb
      obtain rfl := hcurrent (hadmitted version (storedVersion_finalizerPatch _ _))
      rw [storedFinalizers_stamp, storedFinalizers_patch, hstored, Upkeep.onStored_map hchange]

/-- Every call stands somewhere, after every move. -/
theorem stands_step {s s' : Contest} (h : Step k name s s')
    (hs : s.held.Versioned ∧ ∀ c ∈ s.sessions, Stands k name s.held c) :
    s'.held.Versioned ∧ ∀ c ∈ s'.sessions, Stands k name s'.held c := by
  obtain ⟨hv, hs⟩ := hs
  cases h with
  | start held sessions u =>
    refine ⟨hv, fun c hc => ?_⟩
    rcases List.mem_append.mp hc with hc | hc
    · exact hs c hc
    · rw [List.mem_singleton.mp hc]
      exact .reading rfl
  | serve hi hserved =>
    refine ⟨hv.served hserved, fun c hc => ?_⟩
    rcases List.mem_or_eq_of_mem_set hc with hc | rfl
    · exact (hs c hc).served hserved
    · exact (hs _ (List.mem_of_getElem? hi)).proceed hv hserved
  | write held sessions object hn ho =>
    exact ⟨⟨_, List.mem_cons_self, ho⟩, fun c hc => (hs c hc).later hn ho⟩

/-- Every call stands somewhere, in every state that is reached from one without calls. -/
theorem stands_reachable {start s : Contest} (hv : start.held.Versioned) (h0 : start.sessions = [])
    (h : Relation.ReflTransGen (Step k name) start s) :
    s.held.Versioned ∧ ∀ c ∈ s.sessions, Stands k name s.held c := by
  induction h with
  | refl => exact ⟨hv, fun c hc => by rw [h0] at hc; cases hc⟩
  | tail _ hstep ih => exact stands_step hstep ih

end Standing

/-- **No change of the finalizers is lost.** In every interleaving of calls with each other and with
other writers, a patch that is applied changes the list as it was immediately before, in the way of
its call: it appends the finalizer, or takes every occurrence away. A call patches at most once, and
only after it has read the object. A call with a request that is refused or lost ends with an error
and has written nothing. A call that succeeds without a patch saw that there was nothing to do. -/
theorem finalizers_never_lost {k : Kind} {name : String} {start s : Contest}
    (hv : start.held.Versioned) (h0 : start.sessions = [])
    (h : Relation.ReflTransGen (Step k name) start s) {c : Session} (hc : c ∈ s.sessions) :
    (∀ before after, .applied before after ∈ c.turns →
      storedFinalizers after = c.upkeep.onStored (storedFinalizers before) ∧
      ∃ seen, c.turns = [.saw seen, .applied before after]) ∧
    (.failed ∈ c.turns →
      (∃ e, c.rest = .done (.error e)) ∧ ∀ before after, .applied before after ∉ c.turns) ∧
    (c.rest = .done (.ok ()) → (∀ before after, .applied before after ∉ c.turns) →
      ∃ seen, c.turns = [.saw seen] ∧ c.upkeep.Met (storedFinalizers seen)) := by
  have hstands := (stands_reachable hv h0 h).2 c hc
  cases hstands with
  | @reading u rest h =>
    refine ⟨by simp, by simp, fun hdone _ => ?_⟩
    subst h
    rcases perform_upkeep k name u with hp | ⟨q, next, hp, -⟩ <;> rw [hp] at hdone <;> cases hdone
  | writing => exact ⟨by simp, by simp, nofun⟩
  | failed h => exact ⟨fun _ _ ha => absurd ha (h _ _), fun _ => ⟨⟨_, rfl⟩, h⟩, nofun⟩
  | met h => exact ⟨by simp, by simp, fun _ _ => ⟨_, rfl, h⟩⟩
  | @applied u result seen before after h =>
    refine ⟨fun before' after' ha => ?_, by simp, fun _ hn => absurd (by simp) (hn before after)⟩
    simp at ha
    obtain ⟨rfl, rfl⟩ := ha
    exact ⟨h, seen, rfl⟩

/-! ## A call overtaken -/

/-- The call that started last goes on. -/
theorem Step.serve_last {k : Kind} {name : String} {held held' : Held} {sessions : List Session}
    {u : Upkeep} {q : Net.Request String}
    {next : Option Net.Response → Rest} {turns : List Turn}
    {answer : Option Net.Response} {turn : Turn} (hs : Served held q answer turn held') :
    Step k name ⟨held, sessions ++ [⟨u, .ask q next, turns⟩]⟩
      ⟨held', sessions ++ [⟨u, next answer, turns ++ [turn]⟩]⟩ := by
  have hi : (sessions ++ [(⟨u, .ask q next, turns⟩ : Session)])[sessions.length]? =
      some ⟨u, .ask q next, turns⟩ := by simp
  have hserve : Step k name _ _ := .serve hi hs
  simpa using hserve

/-- A call that starts and is answered goes on with the object that it read. -/
theorem reach_settle {k : Kind} {name : String} {u : Upkeep} (held : Held)
    (sessions : List Session) {r : Managed k}
    (hasked : perform k (u.call name) ≠ .done (.error .unanswered)) (response : Net.Response)
    (hs : response.isFailure = false) (hb : Json.parse response.body = some held.object)
    (hr : Managed.decode k held.object = some r) :
    Relation.ReflTransGen (Step k name) ⟨held, sessions⟩
      ⟨held, sessions ++ [⟨u, settle name u r, [.saw held.object]⟩]⟩ := by
  obtain ⟨q, next, hperform, hget, hnext⟩ := (perform_upkeep k name u).resolve_left hasked
  have hstart : Step k name ⟨held, sessions⟩ ⟨held, sessions ++ [⟨u, .ask q next, []⟩]⟩ :=
    hperform ▸ .start held sessions u
  have hserve : Step k name ⟨held, sessions ++ [⟨u, .ask q next, []⟩]⟩
      ⟨held, sessions ++ [⟨u, next (some response), [.saw held.object]⟩]⟩ :=
    Step.serve_last (Served.read hget hs hb)
  rw [hnext, received_read hs hb, hr] at hserve
  exact (Relation.ReflTransGen.single hstart).tail hserve

/-- A network with these finalizers, at a version. -/
def contested (version : String) (finalizers : List String) : Json :=
  .object
    [("metadata", .object
      [("finalizers", ofStrings finalizers), ("name", .string "net"),
        ("resourceVersion", .string version)]),
      ("spec", .object [("forProvider", .object [])])]

/-- A call that starts on a network without the finalizer gets as far as its patch. -/
theorem reach_patch (version : String) (finalizers issued : List String) (sessions : List Session)
    (hb : Json.parse (contested version finalizers).render = some (contested version finalizers))
    (hd : (Managed.decode .vpc (contested version finalizers)).isSome)
    (hf : withFinalizer finalizers ≠ finalizers) :
    ∃ (q : Net.Request String) (next : Option Net.Response → Rest),
      Relation.ReflTransGen (Step .vpc "net") ⟨⟨contested version finalizers, issued⟩, sessions⟩
        ⟨⟨contested version finalizers, issued⟩,
          sessions ++ [⟨.add, .ask q next, [.saw (contested version finalizers)]⟩]⟩ ∧
      (q.method = .patch ∧ q.contentType = some Net.mergePatchType) ∧
      q.body = some (finalizerPatch (some version) (withFinalizer finalizers)).render := by
  obtain ⟨r, hr⟩ := Option.isSome_iff_exists.mp hd
  have hversion : storedVersion (contested version finalizers) = some version := rfl
  obtain ⟨hstored, hread⟩ := storedFinalizers_of_decode hversion hr
  have hlist : finalizers = r.metadata.finalizerList :=
    (List.map_inj_right fun _ _ e => Json.string.inj e).mp hstored
  subst hlist
  have hasked : perform .vpc (Upkeep.add.call "net") ≠ .done (.error .unanswered) := nofun
  have hsent : settle "net" .add r ≠ .done (.error .unanswered) := by
    have htarget : Net.target? (objectPath .vpc "net" ++ "" ++ "?&fieldManager=" ++ fieldManager) =
        some (objectPath .vpc "net" ++ "" ++ "?&fieldManager=" ++ fieldManager) := by
      decide +kernel
    rw [settle]
    simp only [if_neg (show ¬ Upkeep.add.change _ = _ from hf)]
    rw [void, mergeInto, forNamed, if_neg (by decide), exchangeFor_eq, patchRequest]
    simp only [htarget]
    nofun
  obtain ⟨q, next, hsettle, hq, hbody, -⟩ := (settle_patch (u := .add) hf).resolve_left hsent
  rw [hread] at hbody
  have hreach := reach_settle ⟨_, issued⟩ sessions hasked ⟨200, _⟩ rfl hb hr
  rw [hsettle] at hreach
  exact ⟨q, next, hreach, hq, hbody⟩

/-- The finalizer is added to the list that another writer left, after a first patch came too late:
refused, it is repeated by a second call. -/
theorem finalizer_added_after_conflict : ∃ s c before after,
    Relation.ReflTransGen (Step .vpc "net") ⟨⟨contested "1" ["a"], ["1"]⟩, []⟩ s ∧
      c ∈ s.sessions ∧ .applied before after ∈ c.turns ∧
      storedFinalizers before = [.string "b", .string "a"] ∧
      storedFinalizers after = [.string "b", .string "a", .string finalizer] := by
  obtain ⟨q₁, next₁, hfirst, -, -⟩ := reach_patch "1" ["a"] ["1"] [] (by decide +kernel)
    (by decide +kernel) (by decide +kernel)
  have hwrite : Step .vpc "net" _ _ := .write ⟨contested "1" ["a"], ["1"]⟩
    ([] ++ [⟨.add, .ask q₁ next₁, [.saw (contested "1" ["a"])]⟩])
    (contested "2" ["b", "a"]) (by decide) rfl
  have hrefused : Served ⟨contested "2" ["b", "a"], ["2", "1"]⟩ q₁ (some ⟨409, ""⟩) .failed
      ⟨contested "2" ["b", "a"], ["2", "1"]⟩ := .failed fun r hr => by cases hr; rfl
  obtain ⟨q₂, next₂, hsecond, ⟨hq, ht⟩, hbody⟩ := reach_patch "2" ["b", "a"] ["2", "1"]
    ([] ++ [⟨.add, next₁ (some ⟨409, ""⟩), _⟩])
    (by decide +kernel) (by decide +kernel) (by decide +kernel)
  have hparsed :
      q₂.body.bind Json.parse = some (finalizerPatch (some "2") ["b", "a", finalizer]) := by
    have hlist : withFinalizer ["b", "a"] = ["b", "a", finalizer] := by decide +kernel
    rw [hbody, hlist, Option.bind_some, parse_finalizerPatch]
  have hadmitted : ∀ v, storedVersion (finalizerPatch (some "2") ["b", "a", finalizer]) = some v →
      storedVersion (contested "2" ["b", "a"]) = some v := fun v hv => by
    rw [storedVersion_finalizerPatch] at hv
    rw [← hv]
    rfl
  have hnew : "3" ∉ ["2", "1"] := by decide
  have happlied := Served.applied (s := ⟨contested "2" ["b", "a"], ["2", "1"]⟩) hq ht hparsed
    hadmitted hnew none
  have hrun := ((hfirst.tail hwrite).tail (Step.serve_last hrefused)).trans
    (hsecond.tail (Step.serve_last happlied))
  refine ⟨_, _, _, _, hrun, List.mem_append_right _ List.mem_cons_self,
    List.mem_append_right _ List.mem_cons_self, rfl, ?_⟩
  exact ((finalizers_never_lost ⟨"1", List.mem_cons_self, rfl⟩ rfl hrun
    (List.mem_append_right _ List.mem_cons_self)).1 _ _
    (List.mem_append_right _ List.mem_cons_self)).1

end ResourceOperator.Cluster
