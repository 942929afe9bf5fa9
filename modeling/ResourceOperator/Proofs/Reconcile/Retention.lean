import ResourceOperator.Proofs.External.Effect

/-!
# Observed and created state stored

A reconciliation stores a resource after an observation that filled in unset fields, and after a
creation that gave it an external name. It merges the annotations and the spec into the object that
the resource was read from. `Recorded` says what is read then: that spec and those annotations, and
everything else as it was. Free-form parameters alone lose the null members that are not inside an
array.

An object can be stored as an array of its three parts as well. A patch takes the place of an array,
so that nothing is left then but what the patch says.

Results:
* `annotations_read_back`: annotations are read back, with an external name added or not.
* `desired_state_recorded`: what an observation or a creation leaves is recorded, for every kind.
* `arrayed_network_loses_name`: an object that is stored as an array loses its other metadata.
-/

namespace ResourceOperator

open Json Json.Reader Dialogue

variable {k : Kind}

/-- The spec as it is stored. -/
def Spec.withoutNulls (s : Spec k) : Spec k :=
  { s with forProvider := Parameters.withoutNulls k s.forProvider }

/-- An observation of a remote object that is there, or a creation, succeeded and left a
resource. -/
inductive Brings (now : String) (r : Managed k) : List (Exchange Outside) → Managed k → Prop
  | observed {log : List (Exchange Outside)} {observed : Observed} {left : Managed k}
    (present : observed.present = true)
    (run : Run ((External.ofKind k).observe now r) log ⟨.ok observed, left⟩) : Brings now r log left
  | created {log : List (Exchange Outside)} {created : Created} {left : Managed k}
    (run : Run ((External.ofKind k).create now r) log ⟨.ok created, left⟩) : Brings now r log left

/-- What is read once `left` has been stored over the object that `r` was read from: the spec and
the annotations of `left`. An object keeps its other metadata and its status; an array has neither
any more. -/
def Recorded (stored : Json) (r left : Managed k) : Prop :=
  ∃ m, Managed.decode k (stored.merge left.desiredStatePatch) = some m ∧
    m.spec = left.spec.withoutNulls ∧
    m.metadata.annotationTable = left.metadata.annotationTable ∧
    match stored with
    | .object _ =>
      { m.metadata with annotations := r.metadata.annotations } = r.metadata ∧ m.status = r.status
    | _ => { m.metadata with annotations := none } = Metadata.empty ∧ m.status = none

theorem Brings.carries {now : String} {r left : Managed k} {log : List (Exchange Outside)}
    (h : Brings now r log left) (hlog : ∀ x ∈ log, Outside.Received x) : r.Carries left := by
  have effect := External.effect_ofKind k
  cases h with
  | observed _ run => exact (run.of_asking (effect.observe now r) hlog).2
  | created run => exact (run.of_asking (effect.create now r) hlog).2

/-- The annotations that an operation leaves are read back. -/
theorem annotations_read_back {r left : Managed k} (h : r.Carries left) {target : Json}
    (hr : Fits (table text) target r.metadata.annotationTable) :
    table text (target.merge (ofTexts left.metadata.annotationTable)) =
      some left.metadata.annotationTable := by
  rcases h.metadata with hm | ⟨id, hm⟩
  · rw [hm]
    exact persistent_texts.kept hr
  · rw [hm]
    exact hr.insert_texts Metadata.externalNameKey id

/-- They are written in order, too. -/
theorem readable_annotations {r left : Managed k} (h : r.Carries left)
    (hr : Readable (table text) r.metadata.annotationTable) :
    Readable (table text) left.metadata.annotationTable := by
  rw [readable_texts] at hr ⊢
  rcases h.metadata with hm | ⟨id, hm⟩
  · rw [hm]
    exact hr
  · rw [hm]
    exact hr.insert Metadata.externalNameKey id

/-- The spec that an operation leaves is read back, without nulls. -/
theorem spec_recorded {stored : Json} (hc : stored.Canonical) {r left : Managed k}
    (hr : Managed.decode k stored = some r) (h : r.Carries left) :
    Spec.decode k ((slot "spec" stored.mergeable).merge left.spec.encode) =
      some left.spec.withoutNulls := by
  obtain ⟨q, hq, hfits⟩ := h.spec
  have hspec := Spec.fits_of_decode (Managed.fits_of_decode hc hr).2.1
  have hback := (hfits _ (Parameters.fits_of_decode hspec.forProvider)).read_back
  rw [hq]
  exact (Spec.decode_merge hspec q _).mpr hback

/-- **What an observation or a creation leaves is stored faithfully.** For every kind, every object
that a resource was read from, in whatever form, and every answer of the cloud and the catalog:
merging the annotations and the spec of the resource that is left into the object gives one that is
read with them, apart from the nulls of free-form parameters. An object keeps all its other metadata
and its status. -/
theorem desired_state_recorded {stored : Json} (hc : stored.Canonical) {r left : Managed k}
    (hr : Managed.decode k stored = some r) {now : String} {log : List (Exchange Outside)}
    (brings : Brings now r log left) (hlog : ∀ x ∈ log, Outside.Received x) :
    Recorded stored r left := by
  have carries := brings.carries hlog
  have hspec := spec_recorded hc hr carries
  cases stored with
  | object members =>
    obtain ⟨hm, -, hs⟩ := Managed.decode_object.mp hr
    obtain ⟨v, hv, hd⟩ := requiredField_eq_some.mp hm
    have hmeta := Metadata.decode_merge_annotations hd
      (annotations_read_back carries (Metadata.fits_annotations (hc.member hv) hd))
    refine ⟨⟨{ r.metadata with annotations := some left.metadata.annotationTable },
      left.spec.withoutNulls, r.status⟩,
      Managed.decode_merge.mpr ⟨?_, hspec, hs⟩, rfl, rfl, rfl, rfl⟩
    rw [slot, mergeable, hv]
    exact hmeta
  | array items =>
    obtain ⟨metadata, spec, status, rfl, hd, -⟩ := Managed.decode_array.mp hr
    have hm : metadata.Canonical := canonical_array.mp hc metadata List.mem_cons_self
    have hmeta := Metadata.decode_merge_missing
      (readable_annotations carries (Metadata.fits_annotations hm hd).readable)
    exact ⟨⟨{ Metadata.empty with annotations := some left.metadata.annotationTable },
      left.spec.withoutNulls, none⟩,
      Managed.decode_merge.mpr ⟨hmeta, hspec, rfl⟩, rfl, rfl, rfl, rfl⟩
  | _ => cases hr

/-- A declared instance with null members in its free-form parameters. -/
def declaredInstance : Managed .resourceInstance where
  metadata :=
    { Metadata.empty with
      annotations := some [(Metadata.externalNameKey, "i-1")]
      name := some "kafka" }
  spec :=
    { forProvider :=
        ⟨"kafka", "us-south", "default", "messagehub", "standard", some ["team"], none,
          some (.object [("private", .null), ("zones", .array [.null])]), none⟩
      deletionPolicy := .delete
      connectionSecret := none
      connectionTemplates := () }
  status := none

/-- The instance in the cloud. -/
def remoteInstance : ResourceInstance.Remote :=
  ⟨"i-1", "", "", "", "kafka", "", "", "", "", "", "us-south", .active, false, false, none, none,
    none, none, ["team"]⟩

/-- What is left once the instance has been observed: its unset flags are filled in. -/
def observedInstance : Managed .resourceInstance :=
  ResourceInstance.recordRemote "t0"
    (declaredInstance.setParameters
      ⟨"kafka", "us-south", "default", "messagehub", "standard", some ["team"], some false,
        some (.object [("private", .null), ("zones", .array [.null])]), some false⟩)
    remoteInstance

theorem readable_remoteInstance : Readable ResourceInstance.Remote.decode remoteInstance :=
  ⟨remoteInstance.encode, by decide, rfl⟩

/-- The instance is stored with what was filled in, and without the null that is not inside an
array. -/
theorem observed_instance_recorded :
    ∃ m, Managed.decode .resourceInstance
        (declaredInstance.encode.merge observedInstance.desiredStatePatch) = some m ∧
      m.spec.forProvider =
        (⟨"kafka", "us-south", "default", "messagehub", "standard", some ["team"], some false,
          some (.object [("zones", .array [.null])]), some false⟩ :
          ResourceInstance.Parameters) := by
  have run : Run ((External.ofKind .resourceInstance).observe "t0" declaredInstance)
      [⟨.cloud (.controller (.getInstance "i-1")), .ok remoteInstance⟩]
      ⟨.ok ⟨true, false, true, []⟩, observedInstance⟩ := .ask _ _ (.done _)
  have received : ∀ x ∈ [(⟨.cloud (.controller (.getInstance "i-1")), .ok remoteInstance⟩ :
      Exchange Outside)], Outside.Received x :=
    List.forall_mem_singleton.mpr readable_remoteInstance
  have canonical : declaredInstance.encode.Canonical := by decide
  obtain ⟨m, hm, hspec, -⟩ := desired_state_recorded canonical rfl (.observed rfl run) received
  exact ⟨m, hm, congrArg Spec.forProvider hspec⟩

/-- A network as an array of metadata, spec and status. -/
def arrayedNetwork : Json :=
  .array [.object [("name", .string "net")], .object [("forProvider", .object [])], .null]

/-- The network as it is read. -/
def namedNetwork : Managed .vpc where
  metadata := { Metadata.empty with name := some "net" }
  spec := ⟨⟨none, none, none, none⟩, .delete, none, ()⟩
  status := none

/-- The network in the cloud. -/
def remoteNetwork : Vpc.Remote :=
  ⟨"r006-1", "", "", "net", false, none, .available, none, none, none, none⟩

/-- **An object that is stored as an array loses its other metadata**, its name among them, when the
network that it declares is created. -/
theorem arrayed_network_loses_name :
    ¬ ∀ (k : Kind) (stored : Json) (r left : Managed k) (now : String)
      (log : List (Exchange Outside)), stored.Canonical → Managed.decode k stored = some r →
      Brings now r log left → (∀ x ∈ log, Outside.Received x) →
      ∃ m, Managed.decode k (stored.merge left.desiredStatePatch) = some m ∧
        m.spec = left.spec.withoutNulls ∧
        m.metadata.annotationTable = left.metadata.annotationTable ∧
        { m.metadata with annotations := r.metadata.annotations } = r.metadata ∧
        m.status = r.status := by
  intro claim
  have run : Run ((External.ofKind .vpc).create "t0" namedNetwork)
      [⟨.cloud (.network (.createVpc ⟨none, none, none, none⟩)), .ok remoteNetwork⟩]
      ⟨.ok ⟨[]⟩, (namedNetwork.setExternalName "r006-1").setCondition (.creating "t0")⟩ :=
    .ask _ _ (.done _)
  have received : ∀ x ∈ [(⟨.cloud (.network (.createVpc ⟨none, none, none, none⟩)),
      .ok remoteNetwork⟩ : Exchange Outside)], Outside.Received x :=
    List.forall_mem_singleton.mpr ⟨remoteNetwork.encode, by decide, rfl⟩
  have canonical : arrayedNetwork.Canonical := by decide
  obtain ⟨m, hm, -, -, hrest, -⟩ :=
    claim .vpc arrayedNetwork namedNetwork _ _ _ canonical rfl (.created run) received
  cases hm
  cases congrArg Metadata.name hrest

end ResourceOperator
