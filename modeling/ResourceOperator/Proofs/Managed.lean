import ResourceOperator.Managed
import ResourceOperator.Proofs.Reference

/-!
# Declared resources read, and written back

Results:
* `Metadata.decode_object`, `Managed.decode_object`: reading an object is reading each member.
* `Managed.decode_array`: reading an array is reading each place.
* `Metadata.decode_merge_annotations`: annotations written back leave the other metadata.
* `Spec.decode_merge`: a spec is read back exactly as its desired state is.
* `Managed.decode_merge`: what is read after a patch of annotations and spec.
-/

namespace ResourceOperator

open Json

/-- Metadata are read member by member. -/
theorem Metadata.decode_object {members : List (String × Json)} {m : Metadata} :
    Metadata.decode (.object members) = some m ↔
      optionalField (table text) (Table.get? "annotations" members) = some m.annotations ∧
      optionalField Instant.decode (Table.get? "creationTimestamp" members) =
        some m.creationTimestamp ∧
      optionalField int64 (Table.get? "deletionGracePeriodSeconds" members) =
        some m.deletionGracePeriodSeconds ∧
      optionalField Instant.decode (Table.get? "deletionTimestamp" members) =
        some m.deletionTimestamp ∧
      optionalField (list text) (Table.get? "finalizers" members) = some m.finalizers ∧
      optionalField text (Table.get? "generateName" members) = some m.generateName ∧
      optionalField int64 (Table.get? "generation" members) = some m.generation ∧
      optionalField (table text) (Table.get? "labels" members) = some m.labels ∧
      optionalField (list ManagedFields.decode) (Table.get? "managedFields" members) =
        some m.managedFields ∧
      optionalField text (Table.get? "name" members) = some m.name ∧
      optionalField text (Table.get? "namespace" members) = some m.ns ∧
      optionalField (list OwnerReference.decode) (Table.get? "ownerReferences" members) =
        some m.ownerReferences ∧
      optionalField text (Table.get? "resourceVersion" members) = some m.resourceVersion ∧
      optionalField text (Table.get? "selfLink" members) = some m.selfLink ∧
      optionalField text (Table.get? "uid" members) = some m.uid := by
  obtain ⟨annotations, created, grace, deleted, finalizers, stem, generation, labels, managed, name,
    ns, owners, version, link, uid⟩ := m
  simp [decode, -bind_pure_comp]

theorem Metadata.object_of_decode {v : Json} {m : Metadata} (h : Metadata.decode v = some m) :
    ∃ members, v = .object members := by
  cases v with
  | object members => exact ⟨members, rfl⟩
  | _ => cases h

/-- The annotations are read from the member of that name. -/
theorem Metadata.annotations_of_decode {v : Json} {m : Metadata} (h : Metadata.decode v = some m) :
    optionalField (table text) (v.get? "annotations") = some m.annotations := by
  obtain ⟨members, rfl⟩ := object_of_decode h
  exact (decode_object.mp h).1

/-- The annotations are a table that was read from this document, or none. -/
theorem Metadata.fits_annotations {v : Json} {m : Metadata} (hc : v.Canonical)
    (h : Metadata.decode v = some m) :
    Fits (table text) ((v.get? "annotations").getD .null) m.annotationTable := by
  obtain ⟨members, rfl⟩ := object_of_decode h
  have ha := annotations_of_decode h
  rw [annotationTable]
  cases hm : m.annotations with
  | none =>
    rw [hm, optionalField_eq_some_none] at ha
    rcases ha with ha | ha <;> rw [ha] <;> exact readable_no_texts.fits_null
  | some t =>
    rw [hm, optionalField_eq_some_some] at ha
    obtain ⟨w, hw, -, hd⟩ := ha
    rw [hw]
    exact .inl ⟨hc.member hw, hd⟩

/-- Annotations that are read back leave the other metadata as they are. -/
theorem Metadata.decode_merge_annotations {v : Json} {m : Metadata}
    (h : Metadata.decode v = some m) {t : Table String}
    (ht : table text (((v.get? "annotations").getD .null).merge (ofTexts t)) = some t) :
    Metadata.decode (v.merge (.object [("annotations", ofTexts t)])) =
      some { m with annotations := some t } := by
  obtain ⟨members, rfl⟩ := object_of_decode h
  obtain ⟨-, hrest⟩ := decode_object.mp h
  have hn : ofTexts t ≠ .null := nofun
  have hm := merge_ne_null (((object members).get? "annotations").getD .null) hn
  rw [merge_object, decode_object]
  refine ⟨?_, ?_⟩
  · rw [get?_mergeMembers_single, if_pos rfl, mergeField_some hn, optionalField_eq_some_some]
    exact ⟨_, rfl, hm, ht⟩
  · simpa [mergeable] using hrest

/-- Annotations that are written where nothing is are the only metadata. -/
theorem Metadata.decode_merge_missing {t : Table String} (h : Readable (table text) t) :
    Metadata.decode (Json.null.merge (.object [("annotations", ofTexts t)])) =
      some { Metadata.empty with annotations := some t } := by
  have ha : optionalField (table text) (mergeField none (some (ofTexts t))) = some (some t) :=
    persistent_texts.optional (a := some t) h.fits_null
  rw [merge_object, decode_object]
  simpa [mergeable, empty, optionalField] using ha

/-! ## Specs -/

/-- What the fields of a spec fit, of the members that it is written onto. -/
structure Spec.Fits {k : Kind} (target : List (String × Json)) (s : Spec k) : Prop where
  forProvider : Json.Fits (Parameters.decode k) (Reader.slot "forProvider" target) s.forProvider
  deletionPolicy :
    Json.Fits DeletionPolicy.decode (Reader.slot "deletionPolicy" target) s.deletionPolicy
  connectionSecret :
    OptionalFits SecretReference.decode (Reader.slot "writeConnectionSecretToRef" target)
      s.connectionSecret
  connectionTemplates : k = .resourceKey →
    OptionalFits (table text) (Reader.slot "connectionTemplates" target)
      (Templates.table? k s.connectionTemplates)

theorem Templates.fits_reader (k : Kind) (target : List (String × Json)) :
    (Templates.reader k).Fits target fun templates => k = .resourceKey →
      OptionalFits (table text) (Reader.slot "connectionTemplates" target)
        (Templates.table? k templates) := by
  cases k with
  | resourceKey =>
    intro fields a rest ho h
    obtain ⟨hf, ho⟩ := Reader.fits_optional fields a rest ho h
    exact ⟨fun _ => hf, ho⟩
  | _ => exact Reader.fits_pure nofun

theorem Spec.fits_of_decode {k : Kind} {v : Json} {s : Spec k}
    (h : Json.Fits (Spec.decode k) v s) : s.Fits v.mergeable := by
  have hdelete : Readable DeletionPolicy.decode .delete := ⟨.string "Delete", trivial, rfl⟩
  exact Reader.fits_of_read (Spec.Fits v.mergeable) h <|
    Reader.fits_bind Reader.fits_required fun _ h₁ =>
    Reader.fits_bind (Reader.fits_defaulted hdelete) fun _ h₂ =>
    Reader.fits_bind Reader.fits_optional fun _ h₃ =>
    Reader.fits_bind (Templates.fits_reader k _) fun _ h₄ => Reader.fits_pure ⟨h₁, h₂, h₃, h₄⟩

/-- The desired state of a spec is read from its own member. -/
theorem Spec.forProvider_of_decode {k : Kind} {members : List (String × Json)} {s : Spec k}
    (h : Spec.decode k (.object members) = some s) :
    ∃ v, Table.get? "forProvider" members = some v ∧
      Parameters.decode k v = some s.forProvider := by
  obtain ⟨p, policy, secret, templates⟩ := s
  rw [← requiredField_eq_some]
  cases k <;>
    simp [Spec.decode, Templates.reader, -bind_pure_comp, -requiredField_eq_some] at h <;>
    exact h.1

theorem Parameters.encode_ne_null {k : Kind} (p : Parameters k) :
    Parameters.encode k p ≠ .null := by
  cases k <;> nofun

/-- A spec with another desired state is read back exactly as that is. -/
theorem Spec.decode_merge {k : Kind} {target : Json} {s : Spec k} (h : s.Fits target.mergeable)
    (p q : Parameters k) :
    Spec.decode k (target.merge (Spec.encode { s with forProvider := p })) =
        some { s with forProvider := q } ↔
      Parameters.decode k
        ((Reader.slot "forProvider" target.mergeable).merge (Parameters.encode k p)) = some q := by
  rw [← required_merge (Parameters.encode_ne_null p)]
  have h₁ := DeletionPolicy.persistent.defaulted .delete h.deletionPolicy
  have h₂ := SecretReference.persistent.optional h.connectionSecret
  obtain ⟨p', policy, secret, templates⟩ := s
  cases k with
  | resourceKey =>
    have h₃ := persistent_texts.optional (h.connectionTemplates rfl)
    simp only [Templates.table?] at h₃
    simp [Spec.decode, Spec.encode, Templates.reader, Templates.table?, merge_object,
      -bind_pure_comp, h₁, h₂, h₃]
  | _ =>
    simp [Spec.decode, Spec.encode, Templates.reader, Templates.table?, merge_object,
      -bind_pure_comp, h₁, h₂]

namespace Managed

variable {k : Kind}

/-- A declared resource is read member by member. -/
theorem decode_object {members : List (String × Json)} {r : Managed k} :
    Managed.decode k (.object members) = some r ↔
      requiredField Metadata.decode (Table.get? "metadata" members) = some r.metadata ∧
      requiredField (Spec.decode k) (Table.get? "spec" members) = some r.spec ∧
      optionalField (Status.decode k) (Table.get? "status" members) = some r.status := by
  obtain ⟨metadata, spec, status⟩ := r
  simp [decode, -bind_pure_comp]

/-- A declared resource in an array takes exactly three places. -/
theorem decode_array {items : List Json} {r : Managed k} :
    Managed.decode k (.array items) = some r ↔
      ∃ metadata spec status, items = [metadata, spec, status] ∧
        Metadata.decode metadata = some r.metadata ∧ Spec.decode k spec = some r.spec ∧
        Reader.nullable (Status.decode k) status = some r.status := by
  obtain ⟨metadata, spec, status⟩ := r
  rw [decode, Reader.read_array]
  rcases items with _ | ⟨m, _ | ⟨s, _ | ⟨t, rest⟩⟩⟩ <;> simp [-bind_pure_comp]
  exact ⟨fun ⟨hm, hs, ht, hr⟩ => ⟨hr, hm, hs, ht⟩, fun ⟨hr, hm, hs, ht⟩ => ⟨hm, hs, ht, hr⟩⟩

/-- What the parts of a resource fit of the object that it was read from. -/
theorem fits_of_decode {stored : Json} {r : Managed k} (hc : stored.Canonical)
    (hr : Managed.decode k stored = some r) :
    Fits Metadata.decode (Reader.slot "metadata" stored.mergeable) r.metadata ∧
      Fits (Spec.decode k) (Reader.slot "spec" stored.mergeable) r.spec ∧
      OptionalFits (Status.decode k) (Reader.slot "status" stored.mergeable) r.status :=
  Reader.fits_of_read
    (fun r : Managed k =>
      Fits Metadata.decode (Reader.slot "metadata" stored.mergeable) r.metadata ∧
      Fits (Spec.decode k) (Reader.slot "spec" stored.mergeable) r.spec ∧
      OptionalFits (Status.decode k) (Reader.slot "status" stored.mergeable) r.status)
    (.inl ⟨hc, hr⟩) <|
    Reader.fits_bind Reader.fits_required fun _ h₁ =>
    Reader.fits_bind Reader.fits_required fun _ h₂ =>
    Reader.fits_bind Reader.fits_optional fun _ h₃ => Reader.fits_pure ⟨h₁, h₂, h₃⟩

/-- What is read after a patch of annotations and spec. -/
theorem decode_merge {stored : Json} {left m : Managed k} :
    Managed.decode k (stored.merge left.desiredStatePatch) = some m ↔
      Metadata.decode ((Reader.slot "metadata" stored.mergeable).merge
        (.object [("annotations", ofTexts left.metadata.annotationTable)])) = some m.metadata ∧
      Spec.decode k ((Reader.slot "spec" stored.mergeable).merge left.spec.encode) = some m.spec ∧
      optionalField (Status.decode k) (Table.get? "status" stored.mergeable) = some m.status := by
  rw [desiredStatePatch, merge_object, decode_object]
  simp [mergeField_object, Spec.encode]

end Managed

end ResourceOperator
