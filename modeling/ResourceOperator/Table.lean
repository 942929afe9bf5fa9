/-!
# Tables with text keys

A finite table from text to values, listed in ascending order of its keys. Labels, annotations,
the members of a JSON object and the entries of a secret are all tables.

`Sorted` states the order; `get?` is the view through which every operation is described:
* `get?_insert`, `get?_erase`: what insertion and removal do to the view.
* `Sorted.insert`, `Sorted.erase`: both keep the order.
-/

namespace ResourceOperator

/-- A finite table with text keys, listed in ascending order of the keys. -/
abbrev Table (α : Type) := List (String × α)

namespace Table

variable {α β : Type}

/-- The value at a key. -/
def get? (key : String) : Table α → Option α
  | [] => none
  | (k, v) :: rest => if k = key then some v else get? key rest

/-- Sets the value at a key, keeping the ascending order. -/
def insert (key : String) (value : α) : Table α → Table α
  | [] => [(key, value)]
  | (k, v) :: rest =>
    if key < k then (key, value) :: (k, v) :: rest
    else if k = key then (key, value) :: rest
    else (k, v) :: insert key value rest

/-- Removes the entry at a key. -/
def erase (key : String) : Table α → Table α
  | [] => []
  | (k, v) :: rest => if k = key then erase key rest else (k, v) :: erase key rest

/-- Inserts the entries one after the other, so that a later entry wins over an earlier one. -/
def ofList (entries : List (String × α)) : Table α :=
  entries.foldl (fun t e => insert e.1 e.2 t) []

/-- The keys in ascending order. -/
def keys (t : Table α) : List String :=
  t.map (·.1)

/-- Applies a function to every value. -/
def mapValues (f : α → β) (t : Table α) : Table β :=
  t.map fun e => (e.1, f e.2)

/-- The keys ascend. -/
def Sorted (t : Table α) : Prop :=
  t.Pairwise fun a b => a.1 < b.1

@[simp] theorem get?_nil (key : String) : get? key ([] : Table α) = none := rfl

@[simp] theorem get?_cons (key k : String) (v : α) (rest : Table α) :
    get? key ((k, v) :: rest) = if k = key then some v else get? key rest := rfl

theorem get?_append (key : String) (s t : Table α) :
    get? key (s ++ t) = (get? key s).or (get? key t) := by
  induction s with
  | nil => rfl
  | cons e rest ih =>
    obtain ⟨k, v⟩ := e
    by_cases h : k = key <;> simp [h, ih]

theorem get?_insert_self (key : String) (value : α) (t : Table α) :
    get? key (insert key value t) = some value := by
  induction t with
  | nil => simp [insert]
  | cons e rest ih =>
    obtain ⟨k, v⟩ := e
    unfold insert
    split
    · simp
    · split <;> simp_all

theorem get?_insert_ne {key other : String} (h : key ≠ other) (value : α) (t : Table α) :
    get? other (insert key value t) = get? other t := by
  induction t with
  | nil => simp [insert, h]
  | cons e rest ih =>
    obtain ⟨k, v⟩ := e
    unfold insert
    split
    · simp [h]
    · split <;> simp_all

/-- Insertion changes the view at its key only. -/
theorem get?_insert (key other : String) (value : α) (t : Table α) :
    get? other (insert key value t) = if key = other then some value else get? other t := by
  by_cases h : key = other
  · subst h; simp [get?_insert_self]
  · simp [h, get?_insert_ne h]

/-- Removal changes the view at its key only. -/
theorem get?_erase (key other : String) (t : Table α) :
    get? other (erase key t) = if key = other then none else get? other t := by
  induction t with
  | nil => simp [erase]
  | cons e rest ih =>
    obtain ⟨k, v⟩ := e
    unfold erase
    by_cases hk : k = key <;> by_cases ho : key = other <;> simp_all

theorem mem_insert {key : String} {value : α} {t : Table α} {e : String × α}
    (h : e ∈ insert key value t) : e = (key, value) ∨ e ∈ t := by
  induction t with
  | nil => simpa [insert] using h
  | cons d rest ih =>
    obtain ⟨k, v⟩ := d
    unfold insert at h
    split at h
    · simpa using h
    · split at h
      · rcases List.mem_cons.1 h with h | h <;> simp [h]
      · rcases List.mem_cons.1 h with h | h
        · simp [h]
        · rcases ih h with h | h <;> simp [h]

theorem mem_erase {key : String} {t : Table α} {e : String × α} (h : e ∈ erase key t) : e ∈ t := by
  induction t with
  | nil => simp [erase] at h
  | cons d rest ih =>
    obtain ⟨k, v⟩ := d
    unfold erase at h
    split at h
    · exact List.mem_cons_of_mem _ (ih h)
    · rcases List.mem_cons.1 h with h | h
      · simp [h]
      · exact List.mem_cons_of_mem _ (ih h)

/-- Insertion keeps the keys ascending. -/
theorem Sorted.insert {t : Table α} (h : t.Sorted) (key : String) (value : α) :
    (insert key value t).Sorted := by
  induction t with
  | nil => simp [Table.insert, Sorted]
  | cons d rest ih =>
    obtain ⟨k, v⟩ := d
    have hd := (List.pairwise_cons.1 h).1
    have hr : Sorted rest := (List.pairwise_cons.1 h).2
    unfold Table.insert
    split
    · next hlt =>
      refine List.pairwise_cons.2 ⟨fun e he => ?_, h⟩
      rcases List.mem_cons.1 he with he | he
      · simpa [he] using hlt
      · exact String.lt_trans hlt (hd e he)
    · next hlt =>
      split
      · next heq =>
        subst heq
        exact List.pairwise_cons.2 ⟨hd, hr⟩
      · next hne =>
        refine List.pairwise_cons.2 ⟨fun e he => ?_, ih hr⟩
        rcases mem_insert he with he | he
        · subst he
          have hle : k ≤ key := String.not_lt.1 hlt
          rcases Decidable.em (k < key) with hk | hk
          · exact hk
          · exact absurd (String.le_antisymm hle (String.not_lt.1 hk)) hne
        · exact hd e he

/-- Removal keeps the keys ascending. -/
theorem Sorted.erase {t : Table α} (h : t.Sorted) (key : String) : (erase key t).Sorted := by
  induction t with
  | nil => simp [Table.erase, Sorted]
  | cons d rest ih =>
    obtain ⟨k, v⟩ := d
    have hd := (List.pairwise_cons.1 h).1
    have hr : Sorted rest := (List.pairwise_cons.1 h).2
    unfold Table.erase
    split
    · exact ih hr
    · exact List.pairwise_cons.2 ⟨fun e he => hd e (mem_erase he), ih hr⟩

end Table

end ResourceOperator
