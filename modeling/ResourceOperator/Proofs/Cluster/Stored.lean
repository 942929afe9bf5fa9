import ResourceOperator.Cluster.Call
import ResourceOperator.Proofs.Managed

/-!
# The external name of a stored object

The id of the remote object lives in an annotation. `storedName` is that annotation of an object as
the cluster stores it, and `Ordered` says that its annotations are listed in order, as the members
of every document are.

Results:
* `externalName_of_storedName`: what is read from a stored object carries the stored name.
* `storedName_patch`: storing a resource stores its external name.
* `storedName_apply`, `ordered_apply`: other writes leave the name, and all keep the order.
-/

namespace ResourceOperator.Cluster

open Json

variable {k : Kind} {stored : Json} {r : Managed k} {id : String}

/-- The annotations of a stored object. -/
def storedAnnotations (stored : Json) : Option Json :=
  (stored.get? "metadata").bind (·.get? "annotations")

/-- The annotation of a stored object that holds the id of the remote object. -/
def storedName (stored : Json) : Option Json :=
  (storedAnnotations stored).bind (·.get? Metadata.externalNameKey)

/-- The metadata of a stored object, in either form that objects are read from. -/
def storedMetadata : Json → Option Json
  | .object members => Table.get? "metadata" members
  | .array items => items.head?
  | _ => none

/-- The annotations are listed in order. -/
def Ordered (stored : Json) : Prop :=
  ∀ metadata table, storedMetadata stored = some metadata →
    metadata.get? "annotations" = some (.object table) → Table.Sorted table

theorem decode_storedMetadata (h : Managed.decode k stored = some r) :
    ∃ metadata, storedMetadata stored = some metadata ∧
      Metadata.decode metadata = some r.metadata := by
  cases stored with
  | object members => exact Option.bind_eq_some_iff.mp (Managed.decode_object.mp h).1
  | array items =>
    obtain ⟨metadata, spec, status, rfl, hm, -⟩ := Managed.decode_array.mp h
    exact ⟨metadata, rfl, hm⟩
  | _ => cases h

/-- The annotations that are read are in order where the stored ones are. -/
theorem sorted_annotations (h : Managed.decode k stored = some r) (ho : Ordered stored) :
    Table.Sorted r.metadata.annotationTable := by
  obtain ⟨metadata, hs, hm⟩ := decode_storedMetadata h
  have ha := Metadata.annotations_of_decode hm
  rw [Metadata.annotationTable]
  cases hr : r.metadata.annotations with
  | none => exact List.Pairwise.nil
  | some t =>
    rw [hr, optionalField_eq_some_some] at ha
    obtain ⟨v, hv, -, hd⟩ := ha
    rw [table_text_eq_some.mp hd] at hv
    exact Table.sorted_mapValues.mp (ho metadata _ hs hv)

/-- What is read from a stored object carries the stored name. -/
theorem externalName_of_storedName (h : Managed.decode k stored = some r)
    (hn : storedName stored = some (.string id)) (hid : id ≠ "") : r.externalName = some id := by
  obtain ⟨annotations, hs, hkey⟩ := Option.bind_eq_some_iff.mp hn
  obtain ⟨metadata, hm, ha⟩ := Option.bind_eq_some_iff.mp hs
  cases stored with
  | object members =>
    obtain ⟨metadata', hm', hd⟩ := Option.bind_eq_some_iff.mp (Managed.decode_object.mp h).1
    obtain rfl : metadata' = metadata := Option.some.inj (hm'.symm.trans hm)
    have hr := Metadata.annotations_of_decode hd
    rw [ha] at hr
    cases ht : r.metadata.annotations with
    | none =>
      rw [ht, optionalField_eq_some_none] at hr
      rcases hr with hr | hr <;> cases hr
      cases hkey
    | some t =>
      rw [ht, optionalField_eq_some_some] at hr
      obtain ⟨v, hv, -, hr⟩ := hr
      cases hv
      rw [table_text_eq_some.mp hr, ofTexts, get?, Table.get?_mapValues] at hkey
      obtain ⟨name, hname, e⟩ := Option.map_eq_some_iff.mp hkey
      cases e
      simp [Managed.externalName, Metadata.externalName, Metadata.annotationTable, ht, hname, hid]
  | _ => cases hm

/-! ## Writes -/

/-- Storing a resource merges its annotations into the stored ones. -/
theorem storedAnnotations_patch (r : Managed k) (stored : Json) :
    storedAnnotations (stored.merge r.desiredStatePatch) =
      some (((storedAnnotations stored).getD .null).merge
        (ofTexts r.metadata.annotationTable)) := by
  rw [storedAnnotations, storedAnnotations, Managed.desiredStatePatch, ofTexts,
    get?_merge _ (by simp [Table.keys])]
  simp only [Table.get?_cons, if_true, mergeField_object, Option.bind_some]
  rw [get?_merge _ (by simp [Table.keys]), Table.get?_cons, if_pos rfl, mergeField_object]
  cases stored.get? "metadata" <;> rfl

/-- Storing a resource stores its external name. -/
theorem storedName_patch (hs : Table.Sorted r.metadata.annotationTable)
    (hr : r.externalName = some id) (stored : Json) :
    storedName (stored.merge r.desiredStatePatch) = some (.string id) := by
  obtain ⟨hget, -⟩ := Option.filter_eq_some_iff.mp hr
  rw [storedName, storedAnnotations_patch, Option.bind_some, ofTexts,
    get?_merge _ (by simpa using hs.nodup_keys), Table.get?_mapValues, hget]
  rfl

/-- New finalizers leave the annotations. -/
theorem storedAnnotations_finalizers (finalizers : List Json) (stored : Json) :
    storedAnnotations (withStoredFinalizers finalizers stored) = storedAnnotations stored := by
  rw [storedAnnotations, storedAnnotations, withStoredFinalizers,
    get?_merge _ (by simp [Table.keys])]
  simp only [Table.get?_cons, if_true, mergeField_object, Option.bind_some]
  rw [get?_merge _ (by simp [Table.keys])]
  cases stored.get? "metadata" <;> simp [get?]

theorem storedAnnotations_change (change : List Json → List Json) (stored : Json) :
    storedAnnotations (changeStored change stored) = storedAnnotations stored := by
  unfold changeStored
  split
  · rfl
  · exact storedAnnotations_finalizers _ stored

/-- A new status leaves the annotations. -/
theorem storedAnnotations_status (status stored : Json) :
    storedAnnotations (stored.merge (.object [("status", status)])) = storedAnnotations stored := by
  rw [storedAnnotations, storedAnnotations, get?_merge _ (by simp [Table.keys])]
  simp

/-- A write that is not a patch leaves the annotations. -/
theorem storedAnnotations_apply {call : Call} (h : ∀ name body, call ≠ .patch name body)
    (stored : Json) : storedAnnotations (call.apply stored) = storedAnnotations stored := by
  cases call with
  | addFinalizer _ => rw [Call.apply, storedAnnotations_change]
  | removeFinalizer _ => rw [Call.apply, storedAnnotations_change]
  | patch name body => exact absurd rfl (h name body)
  | patchStatus _ status => exact storedAnnotations_status status stored
  | applySecret _ _ => rfl
  | deleteSecret _ => rfl

/-- A write that is not a patch leaves the external name. -/
theorem storedName_apply {call : Call} (h : ∀ name body, call ≠ .patch name body)
    (stored : Json) : storedName (call.apply stored) = storedName stored := by
  rw [storedName, storedName, storedAnnotations_apply h]

theorem Ordered.annotations (h : Ordered stored) {table : Table Json}
    (ha : storedAnnotations stored = some (.object table)) : Table.Sorted table := by
  obtain ⟨metadata, hm, ha⟩ := Option.bind_eq_some_iff.mp ha
  refine h metadata table ?_ ha
  cases stored with
  | object members => exact hm
  | _ => cases hm

/-- What a patch leaves is in order when its annotations are. -/
theorem ordered_merge {changes : List (String × Json)}
    (h : ∀ table, storedAnnotations (stored.merge (.object changes)) = some (.object table) →
      Table.Sorted table) : Ordered (stored.merge (.object changes)) :=
  fun metadata table hm ha => h table (Option.bind_eq_some_iff.mpr ⟨metadata, hm, ha⟩)

theorem ordered_patch (h : Ordered stored) (r : Managed k) :
    Ordered (stored.merge r.desiredStatePatch) := by
  refine ordered_merge fun table ha => ?_
  rw [← Managed.desiredStatePatch, storedAnnotations_patch] at ha
  cases ha
  refine sorted_mergeMembers ?_ _
  cases hs : storedAnnotations stored with
  | none => exact List.Pairwise.nil
  | some annotations =>
    cases annotations with
    | object table => exact h.annotations hs
    | _ => exact List.Pairwise.nil

theorem ordered_change {change : List Json → List Json} (h : Ordered stored) :
    Ordered (changeStored change stored) := by
  unfold changeStored
  split
  · exact h
  · exact ordered_merge fun table e =>
      h.annotations (storedAnnotations_finalizers _ stored ▸ e)

/-- A write that is not a patch keeps the annotations in order. -/
theorem ordered_apply {call : Call} (hc : ∀ name body, call ≠ .patch name body)
    (h : Ordered stored) : Ordered (call.apply stored) := by
  cases call with
  | addFinalizer _ =>
    rw [Call.apply]
    exact ordered_change h
  | removeFinalizer _ =>
    rw [Call.apply]
    exact ordered_change h
  | patch name body => exact absurd rfl (hc name body)
  | patchStatus _ status =>
    exact ordered_merge fun table e => h.annotations (storedAnnotations_status status stored ▸ e)
  | applySecret _ _ => exact h
  | deleteSecret _ => exact h

end ResourceOperator.Cluster
