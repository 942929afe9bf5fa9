import ResourceOperator.Proofs.Cloud.Session
import ResourceOperator.Proofs.External.Reading

/-!
# What makes an instance count as missing

An instance is looked up with two requests, one for the instance and one for its tags, and both tell
a missing object by code 404. So the lookup fails as if the instance did not exist also where the
instance was found and the tagging API does not know its CRN. The observation of a declared instance
takes that failure for absence.

Results:
* `run_getInstance_notFound`, `run_getInstance_ok`: what is exchanged where a lookup finds the
  instance missing, and where it finds it.
* `observed_absent`: an observation reports absence by the answer to its first call.
* `instance_missing_iff`: both together, over the exchanges of the client.
-/

namespace ResourceOperator

open Dialogue

namespace Cloud

/-- The calls to the cloud in a log were carried out over HTTP, one after the other, and the token
was kept between them. -/
inductive Client.Carried (c : Client) :
    List (Exchange Outside) → Option Token → Wire.History → Option Token → Prop where
  | nil (kept : Option Token) : Carried c [] kept [] kept
  | cloud {call : Call} {answer : Service.Answer call} {log : List (Exchange Outside)}
      {kept middle kept' : Option Token} {first rest : Wire.History}
      (run : Run (c.perform call kept) first (answer, middle))
      (later : Carried c log middle rest kept') :
      Carried c (⟨.cloud call, answer⟩ :: log) kept (first ++ rest) kept'
  | lookup {k : Kind} {q : LookupCall} {answer : (Lookup k).Answer q}
      {log : List (Exchange Outside)} {kept kept' : Option Token} {wire : Wire.History}
      (later : Carried c log kept wire kept') :
      Carried c (⟨.lookup k q, answer⟩ :: log) kept wire kept'

namespace Client

variable {c : Client} {id : String} {kept kept' : Option Token} {log : Wire.History}

/-- Where an instance is looked up. -/
def instanceUrl (c : Client) (id : String) : Option Net.Url :=
  c.controllerUrl (instancePath id)

/-- Where the tags of an object are looked up. -/
def tagsUrl (c : Client) (crn : String) : Option Net.Url :=
  (Net.Url.parse? (c.endpoints.tagging ++ "/v3/tags")).map
    (Net.Url.withQuery [("attached_to", crn), ("tag_type", "user")])

/-- The request for the instance was answered with code 404. -/
def InstanceGone (c : Client) (id : String) (kept : Option Token) (log : Wire.History) : Prop :=
  ∃ kept', c.Gone (c.instanceUrl id) kept log kept'

/-- The instance was found, and the request for its tags was answered with code 404. -/
def TagsGone (c : Client) (id : String) (kept : Option Token) (log : Wire.History) : Prop :=
  ∃ first rest found middle kept', log = first ++ rest ∧
    c.Got ResourceInstance.Remote.decode (c.instanceUrl id) kept first found middle ∧
    c.Gone (c.tagsUrl found.crn) middle rest kept'

/-- The instance and its tags were found, and it is in this state. -/
def Found (c : Client) (id : String) (kept : Option Token) (log : Wire.History)
    (state : ResourceInstance.State) : Prop :=
  ∃ first rest found tags middle kept', log = first ++ rest ∧
    c.Got ResourceInstance.Remote.decode (c.instanceUrl id) kept first found middle ∧
    c.Got decodeTags (c.tagsUrl found.crn) middle rest tags kept' ∧ found.state = state

/-- A lookup finds an instance missing where one of its two requests was answered so. -/
theorem run_getInstance_notFound :
    (∃ what kept', Run (c.getInstance id kept) log (.error (.notFound what), kept')) ↔
      c.InstanceGone id kept log ∨ c.TagsGone id kept log := by
  constructor
  · rintro ⟨what, kept', run⟩
    rcases Session.run_bind.mp run with ⟨first, rest, found, middle, hfound, hrest, rfl⟩ |
      ⟨failure, left, hfetch, hout⟩
    · rcases Session.run_bind.mp hrest with ⟨_, _, tags, _, -, hpure, -⟩ |
        ⟨failure, left, htags, hout⟩
      · cases (Session.run_pure.mp hpure).2
      · cases hout
        exact .inr ⟨first, rest, found, middle, _, rfl, run_fetch_ok.mp hfound,
          (run_fetch_notFound.mp htags).2⟩
    · cases hout
      exact .inl ⟨_, (run_fetch_notFound.mp hfetch).2⟩
  · rintro (⟨kept', hgone⟩ | ⟨first, rest, found, middle, kept', rfl, hgot, hgone⟩)
    · exact ⟨id, kept', Session.run_bind.mpr
        (.inr ⟨_, kept', run_fetch_notFound.mpr ⟨rfl, hgone⟩, rfl⟩)⟩
    · refine ⟨found.crn, kept', Session.run_bind.mpr
        (.inl ⟨first, rest, found, middle, run_fetch_ok.mpr hgot, ?_, rfl⟩)⟩
      exact Session.run_bind.mpr (.inr ⟨_, kept', run_fetch_notFound.mpr ⟨rfl, hgone⟩, rfl⟩)

/-- A lookup finds an instance where both of its requests were answered so. -/
theorem run_getInstance_ok {state : ResourceInstance.State} :
    (∃ remote kept', Run (c.getInstance id kept) log (.ok remote, kept') ∧ remote.state = state) ↔
      c.Found id kept log state := by
  constructor
  · rintro ⟨remote, kept', run, rfl⟩
    rcases Session.run_bind.mp run with ⟨first, rest, found, middle, hfound, hrest, rfl⟩ |
      ⟨failure, left, -, hout⟩
    · rcases Session.run_bind.mp hrest with ⟨second, last, tags, left, htags, hpure, rfl⟩ |
        ⟨failure, left, -, hout⟩
      · obtain ⟨rfl, hout⟩ := Session.run_pure.mp hpure
        cases hout
        rw [List.append_nil]
        exact ⟨first, second, found, tags, middle, _, rfl, run_fetch_ok.mp hfound,
          run_fetch_ok.mp htags, rfl⟩
      · cases hout
    · cases hout
  · rintro ⟨first, rest, found, tags, middle, kept', rfl, hgot, htags, rfl⟩
    refine ⟨{ found with tags := tags }, kept', Session.run_bind.mpr
      (.inl ⟨first, rest, found, middle, run_fetch_ok.mpr hgot, ?_, rfl⟩), rfl⟩
    exact Session.run_bind.mpr (.inl ⟨rest, [], tags, kept', run_fetch_ok.mpr htags,
      Session.run_pure.mpr ⟨rfl, rfl⟩, (List.append_nil rest).symm⟩)

end Client

end Cloud

namespace ResourceInstance

variable {now id : String} {r : Managed .resourceInstance}

/-- The operation reports that the remote object does not exist. -/
def ReportsAbsence (o : Outcome .resourceInstance Observed) : Prop :=
  ∃ observed, o.result = .ok observed ∧ observed.present = false

/-- What a lookup comes to, by the answer of the cloud. -/
def fetched : Except Cloud.Failure Remote → Except EngineError (Option Remote)
  | .error e => if e.isNotFound then .ok none else .error (.cloud "cannot get resource instance" e)
  | .ok remote => .ok (if remote.state.isPresent then some remote else none)

theorem run_fetch {log : List (Exchange Outside)} {found : Except EngineError (Option Remote)} :
    Run (fetch id) log found ↔
      ∃ answer, log = [⟨.cloud (.controller (.getInstance id)), answer⟩] ∧
        found = fetched answer := by
  have h : fetch id = .ask (I := Outside) (.cloud (.controller (.getInstance id)))
      fun answer => .done (fetched answer) := by
    refine congrArg (Dialogue.ask (I := Outside) _) (funext fun answer => ?_)
    cases answer with
    | ok remote => rfl
    | error e =>
      show (if e.isNotFound = true then _ else _ : Dialogue Outside _) = _
      rw [fetched]
      split <;> rfl
  rw [h]
  exact run_ask_done_iff

/-- A lookup finds nothing where the cloud reports the instance missing, or past its end. -/
theorem fetched_eq_none {answer : Except Cloud.Failure Remote} :
    fetched answer = .ok none ↔
      (∃ what, answer = .error (.notFound what)) ∨
        ∃ remote, answer = .ok remote ∧ remote.state.isPresent = false := by
  cases answer with
  | error e => cases e <;> simp [fetched, Cloud.Failure.isNotFound]
  | ok remote => simp [fetched]

/-- What is observed once the instance has been found does not report absence. -/
theorem present_of_found {remote : Remote} {log : List (Exchange Outside)}
    {o : Outcome .resourceInstance Observed} (run : Run (see now r remote) log o) :
    ¬ ReportsAbsence o := by
  obtain ⟨_, _, ⟨late, filled⟩, -, hlate, -⟩ := Run.bind.mp run
  cases late with
  | error e =>
    obtain ⟨-, rfl⟩ := run_done_iff.mp hlate
    rintro ⟨observed, ho, -⟩
    cases ho
  | ok changed =>
    obtain ⟨_, _, upToDate, -, hdone, -⟩ := Run.bind.mp hlate
    cases upToDate with
    | error e =>
      obtain ⟨-, rfl⟩ := run_done_iff.mp hdone
      rintro ⟨observed, ho, -⟩
      cases ho
    | ok upToDate =>
      obtain ⟨-, rfl⟩ := run_done_iff.mp hdone
      rintro ⟨observed, ho, hp⟩
      cases ho
      cases hp

/-- An observation reports absence by the answer to its first call, the lookup of the instance. -/
theorem observed_absent (hid : r.externalName = some id) {log : List (Exchange Outside)}
    {o : Outcome .resourceInstance Observed} (run : Run (observe now r) log o) :
    ∃ (answer : Except Cloud.Failure Remote) (rest : List (Exchange Outside)),
      log = ⟨.cloud (.controller (.getInstance id)), answer⟩ :: rest ∧
      (ReportsAbsence o ↔ fetched answer = .ok none) := by
  rw [observe, hid] at run
  obtain ⟨first, rest, found, hfetch, hrest, rfl⟩ := Run.bind.mp run
  obtain ⟨answer, rfl, rfl⟩ := run_fetch.mp hfetch
  refine ⟨answer, rest, rfl, ?_⟩
  rcases hf : fetched answer with e | _ | remote <;> rw [hf] at hrest
  · obtain ⟨-, rfl⟩ := run_done_iff.mp hrest
    refine ⟨?_, nofun⟩
    rintro ⟨observed, ho, -⟩
    cases ho
  · obtain ⟨-, rfl⟩ := run_done_iff.mp hrest
    exact ⟨fun _ => rfl, fun _ => ⟨.absent, rfl, rfl⟩⟩
  · exact ⟨fun h => absurd h (present_of_found hrest), fun h => nomatch h⟩

end ResourceInstance

namespace Cloud.Client

/-- **What makes an instance count as missing.** A lookup of an instance over HTTP fails as if the
instance did not exist exactly where the request for the instance was answered with code 404, or
the instance was found and the request for its tags was. An observation of a declared instance with
an id reports that it does not exist exactly in these cases, or where instance and tags were found
and the state is past the end of the instance. -/
theorem instance_missing_iff (c : Client) :
    (∀ id kept wire,
      (∃ what kept', Run (c.perform (.controller (.getInstance id)) kept) wire
        (.error (.notFound what), kept')) ↔
        c.InstanceGone id kept wire ∨ c.TagsGone id kept wire) ∧
    (∀ now id (r : Managed .resourceInstance) log o kept wire kept',
      r.externalName = some id → Run (ResourceInstance.observe now r) log o →
      c.Carried log kept wire kept' →
        (ResourceInstance.ReportsAbsence o ↔
          ∃ first rest, wire = first ++ rest ∧
            (c.InstanceGone id kept first ∨ c.TagsGone id kept first ∨
              ∃ state, c.Found id kept first state ∧ state.isPresent = false))) := by
  refine ⟨fun id kept wire => run_getInstance_notFound, ?_⟩
  intro now id r log o kept wire kept' hid run carried
  obtain ⟨answer, tail, rfl, habsent⟩ := ResourceInstance.observed_absent hid run
  cases carried with
  | @cloud _ _ _ _ middle _ first rest lookup later =>
    refine habsent.trans (ResourceInstance.fetched_eq_none.trans ⟨?_, ?_⟩)
    · rintro (⟨what, rfl⟩ | ⟨remote, rfl, hstate⟩)
      · refine ⟨first, rest, rfl, ?_⟩
        exact (run_getInstance_notFound.mp ⟨what, middle, lookup⟩).imp_right .inl
      · exact ⟨first, rest, rfl, .inr (.inr ⟨remote.state,
          run_getInstance_ok.mp ⟨remote, middle, lookup, rfl⟩, hstate⟩)⟩
    · rintro ⟨first', rest', e, h⟩
      rcases or_assoc.mpr h with h | ⟨state, h, hstate⟩
      · obtain ⟨what, left, other⟩ := run_getInstance_notFound.mpr h
        exact .inl ⟨what, congrArg Prod.fst (lookup.unique other e).2⟩
      · obtain ⟨remote, left, other, rfl⟩ := run_getInstance_ok.mpr h
        exact .inr ⟨remote, congrArg Prod.fst (lookup.unique other e).2, hstate⟩

/-- A declared instance with an id. -/
def declaredInstance : Managed .resourceInstance where
  metadata := { Metadata.empty with annotations := some [(Metadata.externalNameKey, "i-1")] }
  spec := ⟨⟨"kafka", "us-south", "default", "messagehub", "standard", none, none, none, none⟩,
    .delete, none, ()⟩
  status := none

/-- The exchanges of a lookup of `declaredInstance`: it is active, and the tagging API does not know
its CRN. -/
def untaggedLookup : Wire.History :=
  [⟨.clock, (0 : Int)⟩,
    ⟨.exchange (request .get ⟨false, "rc", ["v2", "resource_instances", "i-1"], none⟩ "tok" .empty),
      some ⟨200, "\x7b\"id\":\"i-1\",\"crn\":\"crn:1\",\"state\":\"active\"\x7d"⟩⟩,
    ⟨.clock, (0 : Int)⟩,
    ⟨.exchange (request .get ⟨false, "tags", ["v3", "tags"],
      some "attached_to=crn%3A1&tag_type=user"⟩ "tok" .empty), some ⟨404, ""⟩⟩]

/-- An active instance is reported not to exist where its tags are missing. -/
theorem activeInstance_reported_missing :
    ∃ log o kept', Run (ResourceInstance.observe "t0" declaredInstance) log o ∧
      sampleClient.Carried log (some ⟨"tok", 1000⟩) untaggedLookup kept' ∧
      ResourceInstance.ReportsAbsence o := by
  have htoken : Run (sampleClient.credential.token (some ⟨"tok", 1000⟩)) [⟨.clock, (0 : Int)⟩]
      (.ok "tok", some ⟨"tok", 1000⟩) := .ask (I := Wire) _ _ (.done _)
  have hgone : sampleClient.TagsGone "i-1" (some ⟨"tok", 1000⟩) untaggedLookup := by
    refine ⟨untaggedLookup.take 2, untaggedLookup.drop 2,
      ⟨"i-1", "", "crn:1", "", "", "", "", "", "", "", "", .active, false, false, none, none, none,
        none, []⟩, some ⟨"tok", 1000⟩, some ⟨"tok", 1000⟩, rfl, ?_, ?_⟩
    · exact ⟨_, _, by decide +kernel, by decide, by decide +kernel, [_], "tok", htoken,
        by decide +kernel, rfl⟩
    · exact ⟨_, _, by decide +kernel, rfl, [_], "tok", htoken, by decide +kernel, rfl⟩
  obtain ⟨what, kept', lookup⟩ := (sampleClient.instance_missing_iff.1 "i-1" _ _).mpr (.inr hgone)
  have run : Run (ResourceInstance.observe "t0" declaredInstance)
      [⟨.cloud (.controller (.getInstance "i-1")), .error (.notFound what)⟩]
      (.ok .absent declaredInstance) := .ask (I := Outside) _ _ (.done _)
  have carried := Carried.cloud lookup (.nil kept')
  exact ⟨_, _, kept', run, carried, (sampleClient.instance_missing_iff.2 "t0" "i-1" declaredInstance _ _
    _ _ _ (by decide +kernel) run carried).mpr ⟨untaggedLookup, [], rfl, .inr (.inl hgone)⟩⟩

end Cloud.Client

end ResourceOperator
