import ResourceOperator.Proofs.Resolution

/-!
# What operations read

An operation reads an object of the cloud, names of the catalog, or other declared objects, and it
may change something. `Confined` says of a dialogue with the outside what it may ask and how it
ends, whatever it is answered. A dialogue that only reads (`Reading`) is determined by the answers
to what it reads: where these are fixed, each of its runs ends alike.

Results:
* `confined_cloud` and one lemma for each way to build an operation.
* `Reading.run_eq`: a run with fixed answers ends as the answers have it.
* `External.reading_ofKind`: resolving references and observing only read, and an update leaves the
  resource as it is, for every kind.
-/

namespace ResourceOperator

open Dialogue

variable {k : Kind}

/-! ## Dialogues that only read -/

namespace Outside

/-- What is read: an object of the cloud, the catalog, and the declared objects. -/
def reads : OutsideCall → Bool
  | .cloud (.network (.getVpc _)) => true
  | .cloud (.network (.getSubnet _)) => true
  | .cloud (.controller (.getInstance _)) => true
  | .cloud (.controller (.getKey _)) => true
  | .cloud (.catalog _) => true
  | .cloud (.events (.getTopic _ _)) => true
  | .lookup _ _ => true
  | _ => false

/-- Answers to every question. -/
abbrev Answers : Type :=
  (q : Outside.Question) → Outside.Answer q

/-- What was read is what these answers say; whatever else was asked was answered in any way. -/
def Fixed (answers : Answers) (log : List (Exchange Outside)) : Prop :=
  ∀ x ∈ log, reads x.question = true → x.answer = answers x.question

/-- The dialogue asks no other questions, and ends in the postcondition. -/
def Confined {α : Type} (allowed : OutsideCall → Prop) (post : α → Prop)
    (d : Dialogue Outside α) : Prop :=
  d.Ensures (asking allowed fun _ => True) (fun _ a => post a) ()

/-- The dialogue only reads. -/
abbrev Reading {α : Type} (d : Dialogue Outside α) : Prop :=
  Confined (fun q => reads q = true) (fun _ => True) d

variable {α β : Type} {allowed : OutsideCall → Prop} {post : α → Prop}

theorem confined_ite {condition : Prop} [Decidable condition] {d e : Dialogue Outside α}
    (hd : Confined allowed post d) (he : Confined allowed post e) :
    Confined allowed post (if condition then d else e) := by
  split <;> assumption

theorem confined_cloud {call : Cloud.Call}
    {f : Except Cloud.Failure call.Result → Dialogue Outside α} (hc : allowed (.cloud call))
    (he : ∀ e, Confined allowed post (f (.error e))) (hok : ∀ v, Confined allowed post (f (.ok v))) :
    Confined allowed post (cloud call >>= f) := by
  refine ⟨hc, fun answer _ => ?_⟩
  cases answer with
  | error e => exact he e
  | ok v => exact hok v

theorem confined_bind {d : Dialogue Outside β} {f : β → Dialogue Outside α}
    (hd : Confined allowed (fun _ => True) d) (hf : ∀ b, Confined allowed post (f b)) :
    Confined allowed post (d >>= f) :=
  (ensures_bind d f).mpr (hd.mono (monotone_asking _ _) fun _ b _ => hf b)

/-- Without an id there is nothing to ask. -/
theorem confined_known {name : Option String} {a : α} {d : String → Dialogue Outside α}
    (ha : post a) (hd : ∀ id, Confined allowed post (d id)) :
    Confined allowed post (match name with
      | none => pure a
      | some id => d id) := by
  cases name with
  | none => exact ha
  | some id => exact hd id

theorem confined_ofCatalog (h : ∀ q, allowed (.cloud (.catalog q))) (d : Dialogue Cloud.Catalog β) :
    Confined allowed (fun _ => True) (ofCatalog d) := by
  induction d with
  | done b => trivial
  | ask q next ih => exact ⟨h q, fun answer _ => ih answer⟩

theorem confined_ofLookup (h : ∀ q, allowed (.lookup k q)) (d : Dialogue (Lookup k) β) :
    Confined allowed (fun _ => True) (ofLookup d) := by
  induction d with
  | done b => trivial
  | ask q next ih => exact ⟨h q, fun answer _ => ih answer⟩

/-- Where everything is allowed, nothing is to be shown of what is asked. -/
theorem confined_any (d : Dialogue Outside β) :
    Confined (fun _ => True) (fun _ => True) d :=
  ensures_anyEnd (fun _ _ _ h => ⟨trivial, fun answer _ => h () answer⟩) d ()

/-- A run of a dialogue that only reads, with fixed answers. -/
theorem Reading.run_eq {answers : Answers} {d : Dialogue Outside α} (h : Reading d)
    {log : List (Exchange Outside)} {a : α} (run : Run d log a) (hf : Fixed answers log) :
    a = d.run answers := by
  refine run.eq_run fun x hx => hf x hx ?_
  exact (run.of_asking h fun _ _ => trivial).1 x hx

theorem run_cloud (answers : Answers) (call : Cloud.Call)
    (f : Except Cloud.Failure call.Result → Dialogue Outside α) :
    (cloud call >>= f).run answers = (f (answers (.cloud call))).run answers := rfl

theorem run_ofCatalog (answers : Answers) (d : Dialogue Cloud.Catalog α) :
    (ofCatalog d).run answers = d.run fun q => answers (.cloud (.catalog q)) :=
  run_forward _ answers d

theorem run_ofLookup (answers : Answers) (d : Dialogue (Lookup k) α) :
    (ofLookup d).run answers = d.run fun q => answers (.lookup k q) :=
  run_forward _ answers d

end Outside

open Outside

/-- What the operations on a kind may ask. -/
structure External.Reads (e : External k) : Prop where
  resolveReferences : ∀ r, Reading (e.resolveReferences r)
  observe : ∀ now r, Reading (e.observe now r)
  update : ∀ r, Confined (fun _ => True) (fun o => o.resource = r) (e.update r)

theorem reading_resolveNothing (r : Managed k) : Reading (External.resolveNothing r) := trivial

/-- A field is resolved by reading. -/
theorem reading_takeOver {j : Kind} (request : Resolution.Request j) (field : String)
    (take : Resolution → Filled (Parameters k)) (r : Managed k) :
    Reading (Resolution.takeOver request field take r) := by
  refine confined_bind (confined_ofLookup (fun _ => rfl) _) fun found => ?_
  cases found with
  | error e => trivial
  | ok found => exact confined_ite trivial trivial

theorem Vpc.reading : Vpc.external.Reads where
  resolveReferences := reading_resolveNothing
  observe now r := by
    refine confined_known trivial fun id => confined_cloud rfl (fun e => ?_) fun v => trivial
    exact confined_ite trivial trivial
  update r := by
    refine confined_known rfl fun id => confined_cloud trivial (fun e => rfl) fun v => ?_
    exact confined_ite rfl (confined_cloud trivial (fun e => rfl) fun v => rfl)

theorem Subnet.reading : Subnet.external.Reads where
  resolveReferences r := reading_takeOver _ _ _ r
  observe now r := by
    refine confined_known trivial fun id => confined_cloud rfl (fun e => ?_) fun v => trivial
    exact confined_ite trivial trivial
  update r := by
    refine confined_known rfl fun id => confined_cloud trivial (fun e => rfl) fun v => ?_
    exact confined_ite rfl (confined_cloud trivial (fun e => rfl) fun v => rfl)

theorem ResourceInstance.reading_fetch (id : String) : Reading (ResourceInstance.fetch id) := by
  refine confined_cloud rfl (fun e => ?_) fun v => trivial
  exact confined_ite trivial trivial

/-- What becomes of an instance that was found: it is filled in, and then compared. -/
def ResourceInstance.see (now : String) (r : Managed .resourceInstance) (remote : Remote) :
    Dialogue Outside (Outcome .resourceInstance Observed) := do
  let (late, filled) ← Outside.ofCatalog (Parameters.lateInitialize r.spec.forProvider remote)
  let r := r.setParameters filled
  match late with
  | .error e => pure (.fail e r)
  | .ok changed => do
    match ← Outside.ofCatalog (filled.isUpToDate remote) with
    | .error e => pure (.fail e r)
    | .ok upToDate => pure (.ok ⟨true, upToDate, changed, []⟩ (recordRemote now r remote))

theorem ResourceInstance.reading_see (now : String) (r : Managed .resourceInstance)
    (remote : Remote) : Reading (ResourceInstance.see now r remote) := by
  refine confined_bind (confined_ofCatalog (fun _ => rfl) _) fun ⟨late, filled⟩ => ?_
  cases late with
  | error e => trivial
  | ok changed =>
    refine confined_bind (confined_ofCatalog (fun _ => rfl) _) fun upToDate => ?_
    cases upToDate <;> trivial

theorem ResourceInstance.reading : ResourceInstance.external.Reads where
  resolveReferences := reading_resolveNothing
  observe now r := by
    refine confined_known trivial fun id => confined_bind (reading_fetch id) fun found => ?_
    rcases found with e | _ | remote
    · trivial
    · trivial
    · exact reading_see now r remote
  update r := by
    refine confined_known rfl fun id => confined_bind (confined_any _) fun found => ?_
    rcases found with e | _ | remote
    · rfl
    · rfl
    · refine confined_bind (confined_any _) fun patch => ?_
      cases patch with
      | error e => rfl
      | ok patch => exact confined_bind (confined_any _) fun _ => rfl

theorem ResourceKey.reading_fetch (id : String) : Reading (ResourceKey.fetch id) := by
  refine confined_cloud rfl (fun e => ?_) fun v => trivial
  exact confined_ite trivial trivial

theorem ResourceKey.reading : ResourceKey.external.Reads where
  resolveReferences r := reading_takeOver _ _ _ r
  observe now r := by
    refine confined_known trivial fun id => confined_bind (reading_fetch id) fun found => ?_
    rcases found with e | _ | remote <;> trivial
  update r := by
    refine confined_known rfl fun id => confined_bind (confined_any _) fun found => ?_
    rcases found with e | _ | remote
    · rfl
    · rfl
    · exact confined_ite rfl (confined_cloud trivial (fun e => rfl) fun v => rfl)

theorem Topic.reading : Topic.external.Reads where
  resolveReferences r := reading_takeOver _ _ _ r
  observe now r := by
    show Reading (Topic.observe now r)
    rw [Topic.observe]
    cases Topic.adminUrl r.spec.forProvider with
    | error e => trivial
    | ok url =>
      refine confined_cloud rfl (fun e => ?_) fun t => trivial
      exact confined_ite trivial trivial
  update r := by
    show Confined _ _ (Topic.update r)
    rw [Topic.update]
    cases Topic.adminUrl r.spec.forProvider with
    | error e => rfl
    | ok url =>
      refine confined_cloud trivial (fun e => rfl) fun t => ?_
      exact confined_ite rfl (confined_cloud trivial (fun e => rfl) fun _ => rfl)

/-- Resolving references and observing only read, and an update leaves the resource as it is, for
every kind. -/
theorem External.reading_ofKind (k : Kind) : (External.ofKind k).Reads := by
  cases k with
  | vpc => exact Vpc.reading
  | subnet => exact Subnet.reading
  | resourceInstance => exact ResourceInstance.reading
  | resourceKey => exact ResourceKey.reading
  | topic => exact Topic.reading

end ResourceOperator
