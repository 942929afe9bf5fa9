import ResourceOperator.Table

/-!
# Tables by their view

Results:
* `ext`: two tables in order with one view are equal.
* `get?_of_mem`: the entries of a table with distinct keys are what is found in it.
* `Sorted.nodup_keys`: a table in order has each key once.
* `get?_foldl_insert`: what a table has into which entries with distinct keys are inserted.
* `get?_ofList`: a table made of entries with distinct keys has what the entries have.
* `ofList_of_sorted`: entries in order make the table that they are.
-/

namespace ResourceOperator.Table

variable {α β : Type} {key : String} {t : Table α}

theorem mem_of_get? {value : α} (h : get? key t = some value) : (key, value) ∈ t := by
  induction t with
  | nil => simp at h
  | cons e rest ih =>
    obtain ⟨k, v⟩ := e
    rw [get?_cons] at h
    split at h
    · next hk => cases h; subst hk; exact List.mem_cons_self
    · exact List.mem_cons_of_mem _ (ih h)

theorem mem_keys_of_get? {value : α} (h : get? key t = some value) : key ∈ keys t :=
  List.mem_map_of_mem (f := Prod.fst) (mem_of_get? h)

theorem get?_eq_none (h : key ∉ keys t) : get? key t = none :=
  Option.eq_none_iff_forall_not_mem.mpr fun _ hget => h (mem_keys_of_get? hget)

/-- An entry of a table that has each key once is found there. -/
theorem get?_of_mem {value : α} (h : (keys t).Nodup) (hm : (key, value) ∈ t) :
    get? key t = some value := by
  induction t with
  | nil => cases hm
  | cons e rest ih =>
    obtain ⟨k, v⟩ := e
    obtain ⟨hk, hrest⟩ := List.nodup_cons.mp h
    rw [get?_cons]
    rcases List.mem_cons.mp hm with he | hm
    · cases he
      exact if_pos rfl
    · have hne : ¬ k = key := by
        rintro rfl
        exact hk (List.mem_map.mpr ⟨_, hm, rfl⟩)
      rw [if_neg hne]
      exact ih hrest hm

theorem Sorted.nodup_keys (h : Sorted t) : (keys t).Nodup := by
  rw [keys, List.Nodup, List.pairwise_map]
  refine h.imp fun {a b} hlt e => ?_
  rw [e] at hlt
  exact String.lt_irrefl _ hlt

@[simp] theorem get?_mapValues (f : α → β) (t : Table α) :
    get? key (mapValues f t) = (get? key t).map f := by
  induction t with
  | nil => rfl
  | cons e rest ih =>
    obtain ⟨k, v⟩ := e
    show get? key ((k, f v) :: mapValues f rest) = _
    rw [get?_cons, get?_cons, ih]
    split <;> rfl

@[simp] theorem keys_mapValues (f : α → β) (t : Table α) : keys (mapValues f t) = keys t :=
  List.map_map

@[simp] theorem sorted_mapValues {f : α → β} : Sorted (mapValues f t) ↔ Sorted t :=
  List.pairwise_map

theorem get?_eq_none_of_lt (h : ∀ e ∈ t, key < e.1) : get? key t = none := by
  cases hk : get? key t with
  | none => rfl
  | some v => exact absurd (h _ (mem_of_get? hk)) (String.lt_irrefl _)

/-- The first key of a table in order is the least. -/
theorem le_of_get? {k : String} {v w : α} (h : Sorted ((k, v) :: t))
    (hk : get? key ((k, v) :: t) = some w) : k ≤ key := by
  rcases List.mem_cons.mp (mem_of_get? hk) with e | hm
  · cases e
    exact String.le_refl key
  · exact String.not_lt.mp (String.lt_asymm ((List.pairwise_cons.mp h).1 _ hm))

/-- Two tables in order with one view are equal. -/
theorem ext {s t : Table α} (hs : Sorted s) (ht : Sorted t)
    (h : ∀ key, get? key s = get? key t) : s = t := by
  induction s generalizing t with
  | nil =>
    cases t with
    | nil => rfl
    | cons e rest =>
      obtain ⟨l, w⟩ := e
      exact absurd (h l) (by simp)
  | cons d first ih =>
    obtain ⟨k, v⟩ := d
    cases t with
    | nil => exact absurd (h k) (by simp)
    | cons e rest =>
      obtain ⟨l, w⟩ := e
      have hkl : k = l := by
        refine String.le_antisymm (le_of_get? hs (w := w) ?_) (le_of_get? ht (w := v) ?_)
        · rw [h l, get?_cons, if_pos rfl]
        · rw [← h k, get?_cons, if_pos rfl]
      subst hkl
      have hvw : v = w := by simpa using h k
      obtain ⟨hd, hfirst⟩ := List.pairwise_cons.mp hs
      obtain ⟨he, hrest⟩ := List.pairwise_cons.mp ht
      rw [hvw, ih hfirst hrest fun key => ?_]
      have hkey := h key
      rw [get?_cons, get?_cons] at hkey
      split at hkey
      · next hk =>
        subst hk
        rw [get?_eq_none_of_lt hd, get?_eq_none_of_lt he]
      · exact hkey

/-! ## Tables made of entries -/

/-- Entries with distinct keys that are inserted into a table are found there, and so is what was
there at other keys. -/
theorem get?_foldl_insert {entries : List (String × α)}
    (h : (keys entries).Nodup) (t : Table α) :
    get? key (entries.foldl (fun t e => insert e.1 e.2 t) t) =
      (get? key entries).or (get? key t) := by
  induction entries generalizing t with
  | nil => rfl
  | cons e rest ih =>
    obtain ⟨k, v⟩ := e
    obtain ⟨hk, hrest⟩ := List.nodup_cons.mp h
    rw [List.foldl_cons, ih hrest, get?_insert, get?_cons]
    by_cases hkey : k = key
    · rw [if_pos hkey, if_pos hkey, get?_eq_none (hkey ▸ hk)]
      rfl
    · rw [if_neg hkey, if_neg hkey]

/-- A table made of entries with distinct keys has what the entries have. -/
theorem get?_ofList {entries : List (String × α)}
    (h : (keys entries).Nodup) : get? key (ofList entries) = get? key entries :=
  (get?_foldl_insert h []).trans Option.or_none

theorem sorted_ofList (entries : List (String × α)) : Sorted (ofList entries) := by
  have hfold : ∀ t : Table α, Sorted t →
      Sorted (entries.foldl (fun t e => insert e.1 e.2 t) t) := by
    induction entries with
    | nil => exact fun t ht => ht
    | cons e rest ih => exact fun t ht => ih _ (ht.insert e.1 e.2)
  exact hfold [] List.Pairwise.nil

/-- A table made of entries has no others. -/
theorem mem_of_mem_ofList {entries : List (String × α)} {e : String × α}
    (h : e ∈ ofList entries) : e ∈ entries := by
  have hfold : ∀ t : Table α, e ∈ entries.foldl (fun t e => insert e.1 e.2 t) t →
      e ∈ entries ∨ e ∈ t := by
    clear h
    induction entries with
    | nil => exact fun t h => .inr h
    | cons d rest ih =>
      intro t h
      rcases ih _ h with h | h
      · exact .inl (List.mem_cons_of_mem _ h)
      · rcases mem_insert h with rfl | h
        · exact .inl List.mem_cons_self
        · exact .inr h
  exact (hfold [] h).resolve_right List.not_mem_nil

/-- An entry with the greatest key comes last. -/
theorem insert_of_lt {value : α} (h : ∀ e ∈ t, e.1 < key) :
    insert key value t = t ++ [(key, value)] := by
  induction t with
  | nil => rfl
  | cons e rest ih =>
    obtain ⟨k, v⟩ := e
    have hkey : k < key := h (k, v) List.mem_cons_self
    have hne : k ≠ key := fun e => String.lt_irrefl _ (e ▸ hkey)
    rw [insert, if_neg (String.lt_asymm hkey), if_neg hne,
      ih fun e he => h e (List.mem_cons_of_mem _ he)]
    rfl

/-- Entries in order make the table that they are. -/
theorem ofList_of_sorted (h : Sorted t) : ofList t = t := by
  have hfold : ∀ s : Table α, Sorted (s ++ t) →
      t.foldl (fun t e => insert e.1 e.2 t) s = s ++ t := by
    clear h
    induction t with
    | nil => exact fun s _ => (List.append_nil s).symm
    | cons e rest ih =>
      intro s hs
      have hlast : ∀ d ∈ s, d.1 < e.1 := fun d hd =>
        (List.pairwise_append.mp hs).2.2 d hd e List.mem_cons_self
      rw [List.foldl_cons, insert_of_lt hlast, ih _ (by simpa using hs)]
      simp
  exact hfold [] h

/-- In a table that has each key once, the entries at a key are the one that is found. -/
theorem filter_key (h : (keys t).Nodup) :
    t.filter (·.1 = key) = ((get? key t).map (key, ·)).toList := by
  induction t with
  | nil => rfl
  | cons e rest ih =>
    obtain ⟨k, v⟩ := e
    obtain ⟨hk, hrest⟩ := List.nodup_cons.mp h
    rw [get?_cons, List.filter_cons, ih hrest]
    by_cases hkey : k = key
    · have hnone : get? key rest = none := get?_eq_none (hkey ▸ hk)
      simp [hkey, hnone]
    · simp [hkey]

end ResourceOperator.Table
