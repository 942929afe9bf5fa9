import ResourceOperator.Json.Merge
import ResourceOperator.Proofs.Table

/-!
# Merged documents member by member

A merge patch acts on each member of its target by itself. `mergeField old new` is what it makes of
one: `old` is the member of the target and `new` that of the patch, and either may be missing. The
lemmas here turn a question about a merged object into one about `mergeField`.

Results:
* `get?_merge`: the members of a merged document, for a patch that names each member once.
* `mergeMembers_append`, `get?_mergeMembers_single`, `get?_mergeMembers_member`: the same for the
  lists of members that encoders build, as simp lemmas.
* `sorted_mergeMembers`: merging keeps the members in order.
-/

namespace ResourceOperator.Json

variable {name key : String} {members changes : List (String × Json)}

/-- A member after a merge: a missing change keeps it, null removes it. -/
def mergeField (old : Option Json) : Option Json → Option Json
  | none => old
  | some change => if change = .null then none else some (merge (old.getD .null) change)

@[simp] theorem mergeField_none (old : Option Json) : mergeField old none = old := rfl

theorem mergeField_some {change : Json} (h : change ≠ .null) (old : Option Json) :
    mergeField old (some change) = some (merge (old.getD .null) change) := if_neg h

theorem mergeField_object (old : Option Json) (changes : List (String × Json)) :
    mergeField old (some (.object changes)) = some (merge (old.getD .null) (.object changes)) := by
  simp [mergeField]

/-- A change that is no null leaves no null behind. -/
theorem merge_ne_null (target : Json) {patch : Json} (h : patch ≠ .null) :
    merge target patch ≠ .null := by
  cases patch with
  | null => exact absurd rfl h
  | _ => nofun

/-- The members of a document are those that a merge starts from. -/
theorem get?_eq_mergeable (name : String) (v : Json) :
    v.get? name = Table.get? name v.mergeable := by
  cases v <;> rfl

/-! ## Lists of changes -/

@[simp] theorem mergeMembers_nil (members : List (String × Json)) :
    mergeMembers members [] = members := by
  rw [mergeMembers]

@[simp] theorem mergeMembers_append (members first second : List (String × Json)) :
    mergeMembers members (first ++ second) = mergeMembers (mergeMembers members first) second := by
  induction first generalizing members with
  | nil => rw [mergeMembers_nil]; rfl
  | cons e rest ih =>
    obtain ⟨name, change⟩ := e
    rw [List.cons_append, mergeMembers, mergeMembers]
    split <;> exact ih _

/-- Several changes are one change after the other. -/
theorem mergeMembers_cons (members : List (String × Json)) (first : String × Json)
    (rest : List (String × Json)) :
    mergeMembers members (first :: rest) = mergeMembers (mergeMembers members [first]) rest :=
  mergeMembers_append members [first] rest

-- the same for each shape that the rest takes in an encoder, so that it ends at one change
@[simp] theorem mergeMembers_cons_cons (members : List (String × Json))
    (first second : String × Json) (rest : List (String × Json)) :
    mergeMembers members (first :: second :: rest) =
      mergeMembers (mergeMembers members [first]) (second :: rest) :=
  mergeMembers_cons members first _

@[simp] theorem mergeMembers_cons_append (members : List (String × Json)) (first : String × Json)
    (second rest : List (String × Json)) :
    mergeMembers members (first :: (second ++ rest)) =
      mergeMembers (mergeMembers members [first]) (second ++ rest) :=
  mergeMembers_cons members first _

@[simp] theorem mergeMembers_cons_member (members : List (String × Json)) (first : String × Json)
    (name : String) (value : Option Json) :
    mergeMembers members (first :: member name value) =
      mergeMembers (mergeMembers members [first]) (member name value) :=
  mergeMembers_cons members first _

/-- One change acts on its own member only. -/
@[simp] theorem get?_mergeMembers_single (change : Json) :
    Table.get? key (mergeMembers members [(name, change)]) =
      if name = key then mergeField (Table.get? key members) (some change)
      else Table.get? key members := by
  rw [mergeMembers, mergeField]
  split
  · rw [mergeMembers_nil, Table.get?_erase]
  · rw [mergeMembers_nil, Table.get?_insert]
    split
    · next h => rw [h]
    · rfl

@[simp] theorem get?_mergeMembers_member (value : Option Json) :
    Table.get? key (mergeMembers members (member name value)) =
      if name = key then mergeField (Table.get? key members) value
      else Table.get? key members := by
  cases value with
  | none => simp
  | some change => exact get?_mergeMembers_single change

/-- A patch that names each member once acts on each of them by itself. -/
theorem get?_mergeMembers (h : (Table.keys changes).Nodup) :
    Table.get? key (mergeMembers members changes) =
      mergeField (Table.get? key members) (Table.get? key changes) := by
  induction changes generalizing members with
  | nil => simp
  | cons e rest ih =>
    obtain ⟨name, change⟩ := e
    obtain ⟨hn, hrest⟩ := List.nodup_cons.mp h
    rw [mergeMembers_cons, ih hrest, get?_mergeMembers_single, Table.get?_cons]
    split
    · next e =>
      subst e
      have hnone : Table.get? name rest = none := by
        cases hr : Table.get? name rest with
        | none => rfl
        | some v => exact absurd (Table.mem_keys_of_get? hr) hn
      rw [hnone, mergeField_none]
    · rfl

/-- The members of a merged document. -/
theorem get?_merge (target : Json) (h : (Table.keys changes).Nodup) :
    (merge target (.object changes)).get? name =
      mergeField (target.get? name) (Table.get? name changes) := by
  rw [merge_object, get?_eq_mergeable name target]
  exact get?_mergeMembers h

/-- Merging keeps the members in order. -/
theorem sorted_mergeMembers (h : Table.Sorted members) (changes : List (String × Json)) :
    Table.Sorted (mergeMembers members changes) := by
  induction changes generalizing members with
  | nil => rwa [mergeMembers_nil]
  | cons e rest ih =>
    obtain ⟨name, change⟩ := e
    rw [mergeMembers]
    split
    · exact ih (h.erase name)
    · exact ih (h.insert name _)

end ResourceOperator.Json
