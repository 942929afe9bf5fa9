/-!
# Sets of text

A finite set of text, listed in ascending order without repetition. `mem_ofList` and `sorted_ofList`
say what `ofList` makes of a list.

`tag_set` gives such a set.
-/

namespace ResourceOperator.TextSet

/-- Adds a text to an ascending list, unless it is there. -/
def insert (s : String) : List String → List String
  | [] => [s]
  | t :: rest =>
    if s < t then s :: t :: rest
    else if s = t then t :: rest
    else t :: insert s rest

/-- The ascending list of the texts of a list. -/
def ofList (xs : List String) : List String :=
  xs.foldr insert []

/-- The texts of one set that are not in another. -/
def diff (a b : List String) : List String :=
  a.filter fun s => !b.contains s

/-- The texts ascend, so none is repeated. -/
def Sorted (xs : List String) : Prop :=
  xs.Pairwise (· < ·)

theorem mem_insert {s x : String} {xs : List String} : x ∈ insert s xs ↔ x = s ∨ x ∈ xs := by
  induction xs with
  | nil => simp [insert]
  | cons t rest ih =>
    unfold insert
    split
    · simp
    · split
      · next h => subst h; simp
      · simp [ih, or_left_comm]

theorem mem_ofList {x : String} {xs : List String} : x ∈ ofList xs ↔ x ∈ xs := by
  induction xs with
  | nil => simp [ofList]
  | cons t rest ih => simpa [ofList, mem_insert] using or_congr_right ih

theorem Sorted.insert {xs : List String} (h : Sorted xs) (s : String) :
    Sorted (TextSet.insert s xs) := by
  induction xs with
  | nil => simp [TextSet.insert, Sorted]
  | cons t rest ih =>
    have ht := (List.pairwise_cons.1 h).1
    have hr : Sorted rest := (List.pairwise_cons.1 h).2
    unfold TextSet.insert
    split
    · next hlt =>
      refine List.pairwise_cons.2 ⟨fun x hx => ?_, h⟩
      rcases List.mem_cons.1 hx with hx | hx
      · simpa [hx] using hlt
      · exact String.lt_trans hlt (ht x hx)
    · next hlt =>
      split
      · exact h
      · next hne =>
        refine List.pairwise_cons.2 ⟨fun x hx => ?_, ih hr⟩
        rcases mem_insert.1 hx with hx | hx
        · subst hx
          rcases Decidable.em (t < x) with hlt' | hlt'
          · exact hlt'
          · exact absurd (String.le_antisymm (String.not_lt.1 hlt') (String.not_lt.1 hlt)) hne
        · exact ht x hx

theorem sorted_ofList (xs : List String) : Sorted (ofList xs) := by
  induction xs with
  | nil => simp [ofList, Sorted]
  | cons t rest ih => simpa [ofList] using ih.insert t

theorem mem_diff {a b : List String} {x : String} : x ∈ diff a b ↔ x ∈ a ∧ x ∉ b := by
  simp [diff]

end ResourceOperator.TextSet
