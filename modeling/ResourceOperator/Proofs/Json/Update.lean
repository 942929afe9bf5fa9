import ResourceOperator.Json.Basic
import ResourceOperator.Proofs.Table

/-!
# Updates of some fields

An update has a member for each of some fields, where there is something to say about it. Each field
has a name of its own, so that the update can be read field by field.

Results:
* `get?_update`: what an update says about a field.
* `updateOf_fieldMembers`: when an update is exact (`UpdateOf`): it says what is wanted of each field
  that is due, and nothing else.
* `UpdateOf.eq_nil_iff`: an exact update is empty where no field is due.
-/

namespace ResourceOperator

theorem Table.exists_of_mem_keys {α : Type} {key : String} {t : Table α} (h : key ∈ keys t) :
    ∃ v, get? key t = some v := by
  induction t with
  | nil => cases h
  | cons e rest ih =>
    obtain ⟨k, v⟩ := e
    rw [get?_cons]
    by_cases hk : k = key
    · exact ⟨v, if_pos hk⟩
    · rcases List.mem_cons.mp h with he | hrest
      · exact absurd he.symm hk
      · rw [if_neg hk]
        exact ih hrest

namespace Json

variable {Field : Type} {name : Field → String} {value : Field → Option Json} {fields : List Field}

/-- The members of an update of some fields. -/
def fieldMembers (name : Field → String) (value : Field → Option Json) (fields : List Field) :
    List (String × Json) :=
  fields.flatMap fun f => member (name f) (value f)

theorem keys_fieldMembers :
    (Table.keys (fieldMembers name value fields)).Sublist (fields.map name) := by
  induction fields with
  | nil => exact List.Sublist.refl _
  | cons f rest ih =>
    show (Table.keys (member (name f) (value f) ++ fieldMembers name value rest)).Sublist _
    cases value f with
    | none => exact ih.cons _
    | some v => exact ih.cons_cons _

theorem nodup_keys_fieldMembers (hname : Function.Injective name) (hfields : fields.Nodup) :
    (Table.keys (fieldMembers name value fields)).Nodup :=
  (List.Pairwise.map name (fun _ _ hne e => hne (hname e)) hfields).sublist keys_fieldMembers

theorem get?_fieldMembers [DecidableEq Field] (hname : Function.Injective name) (f : Field) :
    Table.get? (name f) (fieldMembers name value fields) =
      if f ∈ fields then value f else none := by
  induction fields with
  | nil => rfl
  | cons g rest ih =>
    show Table.get? (name f) (member (name g) (value g) ++ fieldMembers name value rest) = _
    rw [Table.get?_append, get?_member, ih]
    by_cases hg : f = g
    · subst hg
      rw [if_pos rfl, if_pos List.mem_cons_self]
      cases value f <;> simp
    · have hne : ¬ name g = name f := fun h => hg (hname h.symm)
      rw [if_neg hne]
      simp [hg]

/-- What an update says about a field. -/
theorem get?_update [DecidableEq Field] (hname : Function.Injective name) (hf : fields.Nodup)
    (f : Field) : Table.get? (name f) (Table.ofList (fieldMembers name value fields)) =
      if f ∈ fields then value f else none := by
  rw [Table.get?_ofList (nodup_keys_fieldMembers hname hf), get?_fieldMembers hname]

/-! ## Exact updates -/

/-- An update that says what is wanted of each field that is due, under the name of the field, and
nothing else. -/
structure UpdateOf (name : Field → String) (due : Field → Prop) (wanted : Field → Json → Prop)
    (update : Table Json) : Prop where
  /-- The members are listed in the order of their names, each once. -/
  sorted : update.Sorted
  /-- A field that is due has a member. -/
  said : ∀ f, due f → ∃ v, Table.get? (name f) update = some v ∧ wanted f v
  /-- A member belongs to a field that is due. -/
  only : ∀ key ∈ Table.keys update, ∃ f, due f ∧ name f = key

variable {due : Field → Prop} {wanted : Field → Json → Prop} {update : Table Json}

theorem UpdateOf.eq_nil_iff (h : UpdateOf name due wanted update) :
    update = [] ↔ ∀ f, ¬ due f := by
  constructor
  · rintro rfl f hf
    obtain ⟨v, hv, -⟩ := h.said f hf
    cases hv
  · intro hnone
    refine List.eq_nil_iff_forall_not_mem.mpr fun e he => ?_
    obtain ⟨f, hf, -⟩ := h.only e.1 (List.mem_map_of_mem he)
    exact hnone f hf

/-- An exact update of the fields of a list is empty where the list is. -/
theorem UpdateOf.isEmpty_iff (h : UpdateOf name (· ∈ fields) wanted update) :
    fields.isEmpty = true ↔ update = [] := by
  rw [h.eq_nil_iff, List.isEmpty_iff, List.eq_nil_iff_forall_not_mem]

/-- An update of some fields is exact where each field that is due is one of them and has a value
that is wanted, and the others have none. -/
theorem updateOf_fieldMembers [DecidableEq Field] (value : Field → Option Json)
    (hname : Function.Injective name) (hfields : fields.Nodup)
    (hdue : ∀ f, due f → f ∈ fields ∧ ∃ v, value f = some v ∧ wanted f v)
    (hother : ∀ f ∈ fields, ¬ due f → value f = none) :
    UpdateOf name due wanted (Table.ofList (fieldMembers name value fields)) := by
  refine ⟨Table.sorted_ofList _, fun f hf => ?_, fun key hkey => ?_⟩
  · obtain ⟨hmem, v, hv, hwanted⟩ := hdue f hf
    refine ⟨v, ?_, hwanted⟩
    rw [get?_update hname hfields, if_pos hmem, hv]
  · -- what is found in the update is among the members that it is made of
    obtain ⟨v, hv⟩ := Table.exists_of_mem_keys hkey
    rw [Table.get?_ofList (nodup_keys_fieldMembers hname hfields)] at hv
    have hmember := Table.mem_keys_of_get? hv
    obtain ⟨f, hf, rfl⟩ := List.mem_map.mp (keys_fieldMembers.subset hmember)
    refine ⟨f, Classical.byContradiction fun hnot => ?_, rfl⟩
    rw [get?_fieldMembers hname, if_pos hf, hother f hf hnot] at hv
    cases hv

/-- An update of some fields, each of which has a value that is wanted. -/
theorem updateOf_members [DecidableEq Field] (value : Field → Option Json)
    (hname : Function.Injective name) (hfields : fields.Nodup)
    (h : ∀ f ∈ fields, ∃ v, value f = some v ∧ wanted f v) :
    UpdateOf name (· ∈ fields) wanted (Table.ofList (fieldMembers name value fields)) :=
  updateOf_fieldMembers value hname hfields (fun f hf => ⟨hf, h f hf⟩)
    fun _ hf hnot => absurd hf hnot

end Json

end ResourceOperator
