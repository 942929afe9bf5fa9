import Mathlib.Data.List.Forall2
import Mathlib.Tactic.ByContra
import ResourceOperator.Topic.Mapping

/-!
# Where a declaration agrees with a topic

A topic is updated where it disagrees with its declaration: in the number of partitions, and entry
by entry in its configuration. Where the declaration says nothing it agrees with anything.

An update says two things at most. It has a new total for the partitions, and it lists the entries
that disagree, each under its Kafka name, in the order in which the disagreements are listed.

Results:
* `mem_changedFields`: the fields that are updated are those that disagree.
* `entries_forall₂`: the entries that are listed are those that disagree, with the declared values.
* `get?_patch_configs`, `get?_patch_total`, `keys_patch`: what an update says, and that it says
  nothing else.
-/

namespace ResourceOperator.Topic

variable {p : Parameters} {t : Remote}

/-- What a declaration says about a configuration entry. -/
def Parameters.entry (p : Parameters) (k : ConfigKey) : Option String :=
  p.configs.bind fun c => c.get k

/-- A declaration agrees with a topic in a field. -/
def Field.Agrees (p : Parameters) (t : Remote) : Field → Prop
  | .partitions => ∀ n, p.partitions = some n → t.partitions? = some n
  | .config k => ∀ value, p.entry k = some value → t.configs.get k = some value

/-- The configuration entry that a field is. -/
def Field.entry? : Field → Option ConfigKey
  | .partitions => none
  | .config k => some k

/-- The entries that disagree, in the order in which they are listed. -/
def Parameters.changedEntries (p : Parameters) (t : Remote) : List ConfigKey :=
  (p.changedFields t).filterMap Field.entry?

/-- What is declared and is not what there is. -/
theorem isSome_and_ne {α : Type} [DecidableEq α] (desired actual : Option α) :
    (desired.isSome && desired != actual) = true ↔
      ¬ ∀ a, desired = some a → actual = some a := by
  cases desired with
  | none => simp
  | some a => simp [eq_comm (a := some a)]

/-- The fields that are updated are those that disagree. -/
theorem mem_changedFields (f : Field) : f ∈ p.changedFields t ↔ ¬ f.Agrees p t := by
  unfold Parameters.changedFields
  cases f with
  | partitions =>
    have hpartitions : (p.partitions.isSome && p.partitions != t.partitions?) = true ↔
        ¬ Field.partitions.Agrees p t := isSome_and_ne _ _
    rw [← hpartitions]
    cases p.configs <;> simp
  | config k =>
    unfold Field.Agrees Parameters.entry
    cases p.configs with
    | none => simp
    | some c =>
      have hentry := isSome_and_ne (c.get k) (t.configs.get k)
      simp only [Option.bind_some]
      rw [← hentry]
      simp [ConfigKey.mem_all]

theorem mem_changedEntries {k : ConfigKey} :
    k ∈ p.changedEntries t ↔ .config k ∈ p.changedFields t := by
  unfold Parameters.changedEntries
  rw [List.mem_filterMap]
  constructor
  · rintro ⟨f, hf, hk⟩
    cases f with
    | partitions => cases hk
    | config k' =>
      cases hk
      exact hf
  · intro hk
    exact ⟨.config k, hk, rfl⟩

/-- What disagrees is declared. -/
theorem declared_of_mem {k : ConfigKey} (h : .config k ∈ p.changedFields t) :
    ∃ value, p.entry k = some value := by
  by_contra hnone
  refine (mem_changedFields (.config k)).mp h fun value hvalue => ?_
  exact absurd ⟨value, hvalue⟩ hnone

/-! ## What an update says -/

/-- An entry of an update: the Kafka name, and the value that is declared. -/
def Parameters.Lists (p : Parameters) (k : ConfigKey) (entry : Json) : Prop :=
  ∃ value, p.entry k = some value ∧ entry = (ConfigEntry.mk k.kafkaName value).encode

theorem patchEntry_config (k : ConfigKey) : p.patchEntry (.config k) =
    (p.entry k).map fun value => (ConfigEntry.mk k.kafkaName value).encode := rfl

/-- The entries that an update lists are those that disagree, in order. -/
theorem entries_forall₂ : List.Forall₂ p.Lists (p.changedEntries t)
    ((p.changedFields t).filterMap p.patchEntry) := by
  have hdeclared : ∀ k, .config k ∈ p.changedFields t → ∃ value, p.entry k = some value :=
    fun k => declared_of_mem
  unfold Parameters.changedEntries
  generalize p.changedFields t = fields at hdeclared ⊢
  induction fields with
  | nil => exact .nil
  | cons f rest ih =>
    have hrest := ih fun k hk => hdeclared k (List.mem_cons_of_mem f hk)
    cases f with
    | partitions => exact hrest
    | config k =>
      obtain ⟨value, hvalue⟩ := hdeclared k List.mem_cons_self
      have hsaid : p.patchEntry (.config k) = some (ConfigEntry.mk k.kafkaName value).encode := by
        rw [patchEntry_config, hvalue]
        rfl
      rw [List.filterMap_cons_some hsaid]
      exact .cons ⟨value, hvalue, rfl⟩ hrest

/-- An update lists nothing exactly where no entry disagrees. -/
theorem entries_isEmpty : ((p.changedFields t).filterMap p.patchEntry).isEmpty = true ↔
    p.changedEntries t = [] := by
  have hlength := (entries_forall₂ (p := p) (t := t)).length_eq
  rw [List.isEmpty_iff, ← List.length_eq_zero_iff, ← hlength, List.length_eq_zero_iff]

theorem get?_patch_configs : Table.get? "configs" (p.patch t) =
    if p.changedEntries t = [] then none
    else some (.array ((p.changedFields t).filterMap p.patchEntry)) := by
  have hother : Table.get? "configs" (if (p.changedFields t).contains .partitions = true then
      Json.member "new_total_partition_count" (p.partitions.map Json.ofInt) else []) = none := by
    split <;> simp
  unfold Parameters.patch
  rw [Table.get?_append, hother, Option.or_none]
  by_cases h : p.changedEntries t = []
  · rw [if_pos h, if_pos (entries_isEmpty.mpr h)]
    rfl
  · rw [if_neg h, if_neg fun he => h (entries_isEmpty.mp he)]
    rfl

theorem get?_patch_total : Table.get? "new_total_partition_count" (p.patch t) =
    if .partitions ∈ p.changedFields t then p.partitions.map Json.ofInt else none := by
  have hother : Table.get? "new_total_partition_count"
      (if ((p.changedFields t).filterMap p.patchEntry).isEmpty = true then []
        else [("configs", Json.array ((p.changedFields t).filterMap p.patchEntry))]) = none := by
    split <;> simp
  unfold Parameters.patch
  rw [Table.get?_append, hother, Option.none_or]
  by_cases h : .partitions ∈ p.changedFields t
  · rw [if_pos h, if_pos (List.contains_iff_mem.mpr h)]
    exact (Json.get?_member _ _ _).trans (if_pos rfl)
  · rw [if_neg h, if_neg fun hc => h (List.contains_iff_mem.mp hc)]
    rfl

/-- An update says nothing else. -/
theorem keys_patch {key : String} (h : key ∈ Table.keys (p.patch t)) :
    key = "configs" ∨ key = "new_total_partition_count" := by
  obtain ⟨⟨name, v⟩, he, rfl⟩ := List.mem_map.mp h
  unfold Parameters.patch at he
  rcases List.mem_append.mp he with he | he
  · split at he
    · cases he
    · left
      exact congrArg Prod.fst (List.mem_singleton.mp he)
  · split at he
    · cases hp : p.partitions with
      | none => simp [hp] at he
      | some n =>
        right
        rw [hp] at he
        exact congrArg Prod.fst (List.mem_singleton.mp he)
    · cases he

end ResourceOperator.Topic
