import ResourceOperator.Cluster.Call
import ResourceOperator.Proofs.External.Effect
import ResourceOperator.Proofs.Json.Path
import ResourceOperator.Proofs.Ordered
import ResourceOperator.Proofs.Reconcile.Creation
import ResourceOperator.Reconcile.World

/-!
# What a reconciliation writes

Everything that a reconciliation writes about its object is the resource in hand, and the resource
in hand continues the one that the reconciliation started from: `written_of_run`. That settles what
becomes of a stored object which somebody else has changed meanwhile, or which holds more than the
resource says.

* A status is written without its unset fields, so that what the stored status has there survives.
  It is read back as it was published exactly where nothing of the kind is stored.
* A spec is written as a whole, without naming the version of the object that was read. A field that
  is set takes the place of what a user may have written there since, also where the reconciliation
  has not changed it.

Results:
* `written_of_run`: what is written in any run.
* `status_read_back_iff_uncovered`: when a published status is read back.
* `stale_url_survives`: a URL that is gone stays in the stored status.
* `concurrent_edit_kept_iff`: when an edit of the spec survives a patch.
* `concurrent_edit_lost`: a deletion policy that a user has just set is set back.
-/

namespace ResourceOperator.World

open ResourceOperator.Dialogue ResourceOperator.Reconcile ResourceOperator.Managed Json

variable {k : Kind} {r : Managed k}

/-! ## The writes of a run -/

/-- What may be asked when the object that is reconciled was read as `r`: a write of a resource that
continues `r`, and anything outside. -/
def Writes (r : Managed k) : WorldCall → Prop
  | .cluster c => ∃ left : Managed k, r.Continues left ∧ WrittenBy left c
  | _ => True

/-- What the cloud answers with was read from a document. -/
def Received : Exchange World → Prop
  | ⟨.outside q, answer⟩ => Outside.Received ⟨q, answer⟩
  | _ => True

/-- The rule of `Writes` for the calls of a reconciliation, each carried out. -/
abbrev writing (r : Managed k) (now : String) : Rule (Lifecycle k) Unit :=
  (asking (Writes r) Received).through (carryOut (External.ofKind k) now)

/-- An operation on a resource that continues `r` leaves one that does. -/
theorem writing_operation {α : Type} {left : Managed k} (h : r.Continues left)
    {d : Dialogue Outside (Outcome k α)} (hd : Outside.Keeps left.Continues d) :
    (ofOutside d).Ensures (asking (Writes r) Received) (fun _ o => r.Continues o.resource) () :=
  (ensures_forward _ d).mpr (hd.mono (monotone_asking _ _) fun _ _ ho => h.trans ho)

/-- Every call but a creation leaves a resource that continues `r`. -/
theorem calm_writing (r : Managed k) (now : String) :
    Calm (writing r now) fun _ left => r.Continues left where
  mono := (monotone_asking _ _).through _
  condition _ _ c h := h.setCondition c
  resolveReferences _ left h :=
    writing_operation h ((External.effect_ofKind k).resolveReferences left)
  observe _ left h :=
    writing_operation h (((External.effect_ofKind k).observe now left).mono (monotone_asking _ _)
      fun _ _ ho => ho.continues)
  update _ left h := writing_operation h ((External.effect_ofKind k).update left)
  delete _ left h := writing_operation h ((External.effect_ofKind k).delete now left)
  write _ left _ h hc := ⟨⟨left, h, hc⟩, fun _ _ => h⟩

/-- So does a creation. -/
theorem writing_create (r : Managed k) (now : String) (left : Managed k) (h : r.Continues left) :
    writing r now (.create left) (fun _ o => r.Continues o.resource) () :=
  writing_operation h (((External.effect_ofKind k).create now left).mono (monotone_asking _ _)
    fun _ _ ho => ho.continues)

/-- **Whatever a run writes** about its object, it writes a resource that continues the one that the
run started from. -/
theorem written_of_run {context : Context} {log : List (Exchange World)}
    {result : Except ReconcileError Action} (run : Run (World.reconcile context r) log result)
    (received : ∀ x ∈ log, Received x) {c : Cluster.Call} {answer : Except ReconcileError Unit}
    (written : ⟨.cluster c, answer⟩ ∈ log) :
    ∃ left : Managed k, r.Continues left ∧ WrittenBy left c := by
  have calm := calm_writing r context.now
  have h : (World.reconcile context r).Ensures (asking (Writes r) Received) anyEnd () := by
    refine (ensures_forward _ _).mpr (calm.run context (fun name => ?_) (.refl r) ?_)
    · exact calm.branch_of_create context name fun _ => writing_create r context.now
    · exact fun _ _ _ _ => ⟨trivial, fun _ _ => trivial⟩
  exact (run.of_asking h received).1 _ written

/-! ## Statuses -/

/-- **A published status is read back exactly where the stored one leaves its unset fields without a
value.** For every kind, every object that a reconciliation started from, every way its calls may
turn out, and every object that the status is then stored in. -/
theorem status_read_back_iff_uncovered {read : Json} (hc : read.Canonical)
    (hr : Managed.decode k read = some r) {context : Context} {log : List (Exchange World)}
    {result : Except ReconcileError Action} (run : Run (World.reconcile context r) log result)
    (received : ∀ x ∈ log, Received x) {name : String} {status : Json}
    {answer : Except ReconcileError Unit}
    (published : ⟨.cluster (.patchStatus name status), answer⟩ ∈ log) :
    ∃ s : Status k, status = s.encode ∧ ∀ stored,
      s.ReadFrom ((Cluster.Call.patchStatus name status).apply stored) ↔
        s.Uncovered (Reader.slot "status" stored.mergeable) := by
  obtain ⟨left, continues, s, hs, rfl⟩ := written_of_run run received published
  have hrange := continues.inRange (Managed.inRange_of_decode hc hr)
  exact ⟨s, rfl, fun stored => Status.readFrom_merge (fun o ho => hrange s o hs ho) stored⟩

/-- A key whose admin URL has been observed, as it is read from the cluster. -/
def declaredKey : Managed .resourceKey where
  metadata :=
    { Metadata.empty with
      annotations := some [(Metadata.externalNameKey, "k-1")]
      finalizers := some [Cluster.finalizer]
      name := some "key" }
  spec := ⟨⟨"key", some "crn:kafka", none, none, none, none⟩, .delete, none, none⟩
  status := some
    ⟨some ⟨"k-1", "", "", "", "", "", "", "active", false, none, some "https://old"⟩, []⟩

/-- The key in the cloud, without credentials any more. -/
def remoteKey : ResourceKey.Remote :=
  ⟨"k-1", "", "", "", "key", "", "", "", .active, false, "", none, .null⟩

/-- The key as it is left by the observation. -/
def observedKey : Managed .resourceKey :=
  { declaredKey with
    status := some
      ⟨some ⟨"k-1", "", "", "", "", "", "", "active", false, none, none⟩, [.available "t0"]⟩ }

/-- The status that is published once the key has been observed again. -/
def observedKeyStatus : Status .resourceKey :=
  ⟨some ⟨"k-1", "", "", "", "", "", "", "active", false, none, none⟩,
    [.available "t0", .reconcileSuccess "t0"]⟩

/-- The key is observed, and its status published. -/
def keyRun : List (Exchange World) :=
  [⟨.outside (.cloud (.controller (.getKey "k-1"))), .ok remoteKey⟩,
    ⟨.cluster (.patchStatus "key" observedKeyStatus.encode), .ok ()⟩, ⟨.record true, ()⟩]

-- the first two answers are stated apart: the operations are not evaluated again for each later one
theorem run_keyRun : Run (World.reconcile ⟨300, 30, "t0"⟩ declaredKey) keyRun
    (.ok (.requeue 300)) := by
  have resolved :
      Run (carryOut (External.ofKind .resourceKey) "t0" (.resolveReferences declaredKey))
        [] ⟨.ok ⟨false, []⟩, declaredKey⟩ := .done _
  have observed : Run (carryOut (External.ofKind .resourceKey) "t0" (.observe declaredKey))
      [⟨.outside (.cloud (.controller (.getKey "k-1"))), .ok remoteKey⟩]
      ⟨.ok ⟨true, true, false, []⟩, observedKey⟩ := .ask _ _ (.done _)
  refine Run.forward_ask (I := Lifecycle .resourceKey) (q := .resolveReferences declaredKey)
    resolved ?_
  refine Run.forward_ask (I := Lifecycle .resourceKey) (q := .observe declaredKey) observed ?_
  exact .ask _ _ (.ask _ _ (.done _))

theorem received_keyRun : ∀ x ∈ keyRun, Received x := by
  have key : Readable ResourceKey.Remote.decode remoteKey := ⟨remoteKey.encode, by decide, rfl⟩
  exact List.forall_mem_cons.mpr ⟨key, List.forall_mem_cons.mpr ⟨trivial,
    List.forall_mem_singleton.mpr trivial⟩⟩

/-- **A URL that is gone stays in the stored status.** The key has no URL any more, and that is what
is published. What is read from the object afterwards has the old URL still. -/
theorem stale_url_survives :
    ¬ observedKeyStatus.ReadFrom
      ((Cluster.Call.patchStatus "key" observedKeyStatus.encode).apply declaredKey.encode) := by
  have canonical : declaredKey.encode.Canonical := by decide
  have published : ⟨.cluster (.patchStatus "key" observedKeyStatus.encode), .ok ()⟩ ∈ keyRun :=
    .tail _ (.head _)
  obtain ⟨s, hs, readback⟩ :=
    status_read_back_iff_uncovered canonical rfl run_keyRun received_keyRun published
  obtain ⟨v, hv, hd⟩ := (readback .null).mpr (Status.uncovered_null s)
  cases hv
  obtain rfl : s = observedKeyStatus := Option.some.inj (hd.symm.trans rfl)
  rw [readback]
  intro uncovered
  cases uncovered ("kafkaAdminUrl", none) (.tail _ (.head _)) rfl

/-! ## Specs -/

/-- The value at a path of the spec of a stored object. -/
def specAt (path : List String) (stored : Json) : Option Json :=
  stored.at? ("spec" :: path)

/-- A resource that continues one that was read has a spec that is written in order. -/
theorem canonical_spec {read : Json} (hc : read.Canonical) (hr : Managed.decode k read = some r)
    {left : Managed k} (h : r.Continues left) : left.spec.encode.Canonical := by
  obtain ⟨q, hq, hfits⟩ := h.spec
  have hread := Spec.fits_of_decode (Managed.fits_of_decode hc hr).2.1.readable.fits_null
  rw [hq]
  refine Spec.canonical (hfits (Parameters.fits_of_decode hread.forProvider)) fun t ht => ?_
  cases k with
  | resourceKey =>
    exact readable_texts.mp (OptionalFits.readable (hread.connectionTemplates rfl) ht)
  | _ => cases ht

/-- The spec of an object that a resource has been stored in. -/
theorem specAt_merge (path : List String) (stored : Json) (left : Managed k) :
    specAt path (stored.merge left.desiredStatePatch) =
      at? path (((stored.get? "spec").getD .null).merge left.spec.encode) := by
  have hs : left.spec.encode ≠ .null := nofun
  simp [specAt, at?_cons, desiredStatePatch, merge_object, get?_eq_mergeable, mergeable,
    mergeField_some hs]

/-- **An edit of the spec survives a patch only where it agrees with it.** For every kind, every
object that a reconciliation started from, every way its calls may turn out, and whatever has become
of the object meanwhile: a field that the patch has the same value for as the object that was read
keeps what is stored there exactly where that is the value of the patch. The patch names no version
of the object, so that it is not refused; and a field that it says nothing about keeps its value. -/
theorem concurrent_edit_kept_iff {read : Json} (hc : read.Canonical)
    (hr : Managed.decode k read = some r) {context : Context} {log : List (Exchange World)}
    {result : Except ReconcileError Action} (run : Run (World.reconcile context r) log result)
    (received : ∀ x ∈ log, Received x) {name : String} {body : Json}
    {answer : Except ReconcileError Unit}
    (patched : ⟨.cluster (.patch name body), answer⟩ ∈ log) :
    body.at? ["metadata", "resourceVersion"] = none ∧
      ∃ left : Managed k, body = left.desiredStatePatch ∧
        (∃ q, left.spec = { r.spec with forProvider := q }) ∧
        ∀ edited path,
          (∀ w, w.Atom → r.spec.encode.at? path = some w → left.spec.encode.at? path = some w →
            (specAt path ((Cluster.Call.patch name body).apply edited) = specAt path edited ↔
              specAt path edited = Reader.given any w)) ∧
          (left.spec.encode.Silent path →
            specAt path ((Cluster.Call.patch name body).apply edited) = specAt path edited) := by
  obtain ⟨left, continues, rfl⟩ := written_of_run run received patched
  have hcan := canonical_spec hc hr continues
  refine ⟨rfl, left, rfl, continues.spec.imp fun _ => And.left, fun edited path => ?_⟩
  rw [Cluster.Call.apply, specAt_merge]
  cases path with
  | nil =>
    refine ⟨fun w hw _ hleft => ?_, False.elim⟩
    cases hleft
    cases hw
  | cons next path =>
    refine ⟨fun w hw _ hleft => ?_, fun h => ?_⟩
    · rw [at?_merge_of_atom hcan hleft hw]
      exact eq_comm
    · rw [at?_merge_of_silent hcan h, at?_getD_null]
      rfl

/-- The network once a user has asked for it to be left alone on deletion. -/
def editedNetwork : Managed .vpc :=
  { plainNetwork with spec := { plainNetwork.spec with deletionPolicy := .orphan } }

/-- **A deletion policy that a user has just set is set back** by a reconciliation that read the
network before, and has nothing to do with the policy. -/
theorem concurrent_edit_lost :
    specAt ["deletionPolicy"] editedNetwork.encode = some (.string "Orphan") ∧
      specAt ["deletionPolicy"]
        ((Cluster.Call.patch "net" createdNetwork.desiredStatePatch).apply editedNetwork.encode) ≠
          some (.string "Orphan") := by
  have canonical : plainNetwork.encode.Canonical := by decide
  have run : Run (World.reconcile ⟨300, 30, "t0"⟩ plainNetwork) recordedRun (.ok (.requeue 30)) :=
    .ask _ _ (.ask _ _ (.ask _ _ (.ask _ _ (.done _))))
  have created : Received networkCreation :=
    ⟨Vpc.Remote.encode ⟨"r006-1", "", "", "net", false, none, .available, none, none, none, none⟩,
      by decide, rfl⟩
  have received : ∀ x ∈ recordedRun, Received x :=
    List.forall_mem_cons.mpr ⟨created, List.forall_mem_cons.mpr ⟨trivial,
      List.forall_mem_cons.mpr ⟨trivial, List.forall_mem_singleton.mpr trivial⟩⟩⟩
  obtain ⟨-, left, -, ⟨q, hq⟩, kept⟩ :=
    concurrent_edit_kept_iff canonical rfl run received (.tail _ (.head _))
  have unchanged : left.spec.encode.at? ["deletionPolicy"] = some (.string "Delete") := by
    rw [hq]
    rfl
  have hkept := (kept editedNetwork.encode ["deletionPolicy"]).1 (.string "Delete") trivial rfl
    unchanged
  have policies : (some (.string "Orphan") : Option Json) ≠ some (.string "Delete") := by decide
  exact ⟨rfl, fun h => policies (hkept.mp h)⟩

end ResourceOperator.World
