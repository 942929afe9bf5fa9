import ResourceOperator.Proofs.Cloud.Bodies
import ResourceOperator.Proofs.Cloud.ReadBack
import ResourceOperator.Proofs.Cloud.Session
import ResourceOperator.Proofs.External.Effect
import ResourceOperator.Proofs.Json.Names

/-!
# Answers of the client

What operations keep rests on the cloud's answers being read from documents in order
(`Outside.Received`). The client reads bodies as they stand, and a body may say more than any
document. What it answers with is received all the same: it is read from the document that it would
be written as.

Results:
* `readable_of_draft` of each record: what is read from a draft is read from a document in order.
* `Client.readable_of_run`: every answer of the client can be read as the result of its call.
* `Outside.received_of_run`: every answer of the client is received.
-/

namespace ResourceOperator

open Json Json.Reader

/-! ## What is written is in order -/

@[simp] theorem Cloud.ObjectReference.canonical (r : ObjectReference) : r.encode.Canonical :=
  canonical_of_names names_single.cons.cons.cons (by decide) (by simp)

@[simp] theorem Cloud.NetworkState.canonical (s : NetworkState) : s.encode.Canonical := trivial

@[simp] theorem Subnet.ZoneReference.canonical (z : ZoneReference) : z.encode.Canonical :=
  canonical_of_names names_single.cons (by decide) (by simp)

theorem Vpc.Remote.canonical (v : Remote) : v.encode.Canonical :=
  canonical_of_names ((((((((names_single.append names_member).append names_single).append
    names_member).append names_member).append names_member).append names_single.cons.cons).append
    names_member).append names_single) (by decide) (by simp)

theorem Subnet.Remote.canonical (s : Remote) : s.encode.Canonical :=
  canonical_of_names (((((((names_single.append names_member).append
    names_single.cons.cons.cons.cons.cons).append names_member).append names_member).append
    names_member).append names_member).append names_single.cons.cons.cons) (by decide) (by simp)

@[simp] theorem ResourceInstance.LastOperation.canonical (o : LastOperation) :
    o.encode.Canonical :=
  canonical_of_names (names_member.append names_single.cons) (by decide) (by simp)

@[simp] theorem ResourceInstance.State.canonical (s : State) : s.encode.Canonical := trivial

theorem ResourceInstance.Remote.canonical {r : Remote}
    (h : ∀ v, r.parameters = some v → v.Canonical) : r.encode.Canonical := by
  have parameters : CanonicalMembers (member "parameters" r.parameters) :=
    canonicalMembers_member.mpr h
  exact canonical_of_names ((((((((names_single.cons.append names_member).append
    names_single).append names_member).append names_single.cons).append names_member).append
    names_single.cons).append names_member).append
    names_single.cons.cons.cons.cons.cons.cons.cons) (by decide) (by simpa using parameters)

@[simp] theorem ResourceKey.State.canonical (s : State) : s.encode.Canonical := trivial

theorem ResourceKey.Remote.canonical {k : Remote} (h : k.credentials.Canonical) :
    k.encode.Canonical :=
  canonical_of_names ((names_single.append names_member).append
    names_single.cons.cons.cons.cons.cons.cons.cons.cons.cons.cons) (by decide) (by simpa using h)

@[simp] theorem Topic.Configs.canonical_kafka (c : Configs) : c.encodeKafka.Canonical := by
  simp only [encodeKafka, encodeWith, ConfigKey.all, List.flatMap_cons, List.flatMap_nil]
  exact canonical_of_names (names_member.append (names_member.append (names_member.append
    (names_member.append (names_member.append (names_member.append (names_member.append
    names_nil))))))) (by decide) (by simp)

theorem Topic.Remote.canonical {t : Remote} (h : ∀ v ∈ t.replicaAssignments, v.Canonical) :
    t.encode.Canonical :=
  canonical_of_names names_single.cons.cons.cons.cons.cons.cons (by decide)
    (by simpa [canonical_array] using h)

/-! ## What is read from a draft -/

/-- What is read from a field for any document, which may be null. -/
theorem Json.Reader.yields_any {name : String} :
    (lastOptional name any : Reader Draft (Option Json)).Yields fun value =>
      ∀ v, value = some v → v ≠ .null ∧ v.Canonical := by
  refine yields_defaulted_of nofun fun d value h v hv => ?_
  subst hv
  by_cases hd : d = .null
  · rw [hd] at h
    cases h
  · rw [Draft.nullable_of_ne_null hd] at h
    obtain ⟨w, hw, e⟩ := Option.map_eq_some_iff.mp h
    cases e
    exact ⟨fun e => Draft.settle_ne_null hd (e ▸ hw), Draft.canonical_settle d v hw⟩

theorem Vpc.Remote.readable (v : Remote) : Readable decode v :=
  ⟨v.encode, v.canonical, faithful.kept v⟩

theorem Subnet.Remote.readable_of_draft {d : Draft} {s : Remote} (h : decode d = some s) :
    Readable decode s :=
  ⟨s.encode, s.canonical, read_back (counts_read h).1 (counts_read h).2⟩

/-- An instance that was read from a draft is read from a document, and with any other tags too. -/
theorem ResourceInstance.Remote.readable_of_draft {d : Draft} {r : Remote} (h : decode d = some r)
    (tags : List String) : Readable decode { r with tags := tags } := by
  have hp := parameters_of_read yields_any h
  exact ⟨encode { r with tags := tags }, canonical fun v hv => (hp v hv).2,
    read_back fun e => (hp .null e).1 rfl⟩

theorem ResourceKey.Remote.readable_of_draft {d : Draft} {k : Remote} (h : decode d = some k) :
    Readable decode k := by
  have hcredentials : k.credentials.Canonical :=
    yields_read (fun k : Remote => k.credentials.Canonical) h <| yields_after fun _ =>
      yields_after fun _ => yields_after fun _ => yields_after fun _ => yields_after fun _ =>
      yields_after fun _ => yields_after fun _ => yields_after fun _ => yields_after fun _ =>
      yields_after fun _ => yields_after fun _ => yields_after fun _ =>
      yields_bind (yields_defaulted_of trivial Draft.canonical_settle) fun _ hc => yields_pure hc
  exact ⟨k.encode, canonical hcredentials, faithful.kept k⟩

theorem Topic.Remote.readable_of_draft {d : Draft} {t : Remote} (h : decode d = some t) :
    Readable decode t := by
  have hassignments : ∀ v ∈ t.replicaAssignments, v.Canonical :=
    yields_read (fun t : Remote => ∀ v ∈ t.replicaAssignments, v.Canonical) h <|
      yields_after fun _ => yields_after fun _ => yields_after fun _ => yields_after fun _ =>
      yields_after fun _ => yields_after fun _ =>
      yields_bind (yields_defaulted_of nofun fun _ _ => Draft.canonical_of_list) fun _ hc =>
      yields_pure hc
  exact ⟨t.encode, canonical hassignments, (numbers_read h).read_back⟩

/-! ## What a call answers with -/

namespace Cloud

open Dialogue

theorem readable_nothing (u : Unit) : Readable decodeNothing u := ⟨.null, trivial, rfl⟩

namespace Session

variable {α β : Type} {p : α → Prop} {q : β → Prop} {s : Session α} {f : α → Session β}

/-- Whatever the session answers with has the property. -/
def Answers (p : α → Prop) (s : Session α) : Prop :=
  ∀ ⦃kept log a kept'⦄, Run (s kept) log (.ok a, kept') → p a

theorem answers_pure {a : α} (h : p a) : (pure a : Session α).Answers p := by
  intro kept log b kept' hrun
  obtain ⟨-, e⟩ := run_pure.mp hrun
  cases e
  exact h

theorem answers_bind (hs : s.Answers p) (hf : ∀ a, p a → (f a).Answers q) :
    (s >>= f).Answers q := by
  intro kept log b kept' hrun
  rcases run_bind.mp hrun with ⟨first, rest, a, middle, ha, hb, -⟩ | ⟨e, left, -, hout⟩
  · exact hf a (hs ha) hb
  · cases hout

/-- A step of whose answer nothing needs to be known. -/
theorem answers_after (hf : ∀ a, (f a).Answers q) : (s >>= f).Answers q :=
  answers_bind (p := fun _ => True) (fun _ _ _ _ _ => trivial) fun a _ => hf a

/-- What is read from a body is read from a draft. -/
theorem answers_readBody {decode : Draft → Option α} (h : ∀ d a, decode d = some a → p a)
    (response : Net.Response) : (readBody decode response).Answers p := by
  intro kept log a kept' hrun
  obtain ⟨-, hout⟩ := run_readBody.mp hrun
  cases hread : readText decode response.body with
  | none =>
    rw [hread] at hout
    cases hout
  | some b =>
    rw [hread] at hout
    cases hout
    obtain ⟨d, -, hd⟩ := Option.bind_eq_some_iff.mp hread
    exact h d a hd

end Session

namespace Client

open Session

variable (c : Client)

theorem answers_fetch {α : Type} {p : α → Prop} {decode : Draft → Option α}
    (h : ∀ d a, decode d = some a → p a) {method : Net.Method} {url : Option Net.Url}
    {content : Content} {what : String} : (c.fetch decode method url content what).Answers p :=
  answers_after fun response => answers_readBody h response

theorem answers_getInstance (id : String) :
    (c.getInstance id).Answers (Readable ResourceInstance.Remote.decode) := by
  refine answers_bind (p := fun r => ∃ d : Draft, ResourceInstance.Remote.decode d = some r)
    (c.answers_fetch fun d r h => ⟨d, h⟩) fun r hr => answers_after fun tags =>
    answers_pure ?_
  obtain ⟨d, hd⟩ := hr
  exact ResourceInstance.Remote.readable_of_draft hd tags

/-- **Every answer of the client can be read** as the result of its call. -/
theorem readable_of_run (call : Call) {kept kept' : Option Token} {log : Wire.History}
    {v : call.Result} (h : Run (c.perform call kept) log (.ok v, kept')) :
    Readable call.decodeResult v := by
  cases call with
  | network call =>
    cases call with
    | getVpc | createVpc | updateVpc => exact v.readable
    | getSubnet | createSubnet | updateSubnet =>
      exact c.answers_fetch (fun _ _ => Subnet.Remote.readable_of_draft) h
    | deleteVpc | deleteSubnet => exact readable_nothing v
  | controller call =>
    cases call with
    | getInstance id => exact c.answers_getInstance id h
    | createInstance | updateInstance =>
      exact c.answers_fetch
        (fun _ r hr => ResourceInstance.Remote.readable_of_draft hr r.tags) h
    | getKey | createKey | updateKey =>
      exact c.answers_fetch (fun _ _ => ResourceKey.Remote.readable_of_draft) h
    | deleteInstance | attachTags | detachTags | deleteKey => exact readable_nothing v
  | catalog call => exact readable_text v
  | events call =>
    cases call with
    | getTopic => exact c.answers_fetch (fun _ _ => Topic.Remote.readable_of_draft) h
    | createTopic | updateTopic | deleteTopic => exact readable_nothing v

end Client

end Cloud

/-- **Every answer of the client is received.** -/
theorem Outside.received_of_run (c : Cloud.Client) (call : Cloud.Call) {kept : Option Cloud.Token}
    {log : Cloud.Wire.History} {out : Except Cloud.Failure call.Result × Option Cloud.Token}
    (h : Dialogue.Run (c.perform call kept) log out) : Received ⟨.cloud call, out.1⟩ := by
  obtain ⟨answer, kept'⟩ := out
  cases answer with
  | error e => exact trivial
  | ok v => exact c.readable_of_run call h

end ResourceOperator
