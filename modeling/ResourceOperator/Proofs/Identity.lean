import Mathlib.Data.List.TakeWhile
import ResourceOperator.Identity

/-!
# Identities that name no object

What names no object has an empty canonical id. An empty value has, in every representation. So has
a URL of nothing but slashes, since trailing slashes do not count and no segment is left; a resource
name that ends in a colon stands for itself, and names an object.

Results:
* `Text.lastSegment_dropTrailing`: when nothing is left of a text whose trailing separators are
  dropped.
* `canonicalId_eq_empty_iff`: which identities have an empty canonical id.
-/

namespace ResourceOperator

/-- Nothing is left where a text has separators only. -/
theorem Text.lastSegment_dropTrailing (sep : Char) (s : String) :
    lastSegment sep (dropTrailing sep s) = "" ↔ ∀ c ∈ s.toList, c = sep := by
  unfold lastSegment dropTrailing
  rw [String.toList_ofList, List.reverse_reverse, String.ofList_eq_empty_iff, List.reverse_eq_nil_iff]
  cases hkept : s.toList.reverse.dropWhile (· == sep) with
  | nil =>
    have hall : ∀ c ∈ s.toList.reverse, (c == sep) = true := List.dropWhile_eq_nil_iff.mp hkept
    refine iff_of_true rfl fun c hc => ?_
    exact beq_iff_eq.mp (hall c (List.mem_reverse.mpr hc))
  | cons c rest =>
    -- what is kept begins with another character
    have hne : s.toList.reverse.dropWhile (· == sep) ≠ [] := by
      rw [hkept]
      exact List.cons_ne_nil c rest
    have hc : (c == sep) = false := by
      have hhead := List.head_dropWhile_not (· == sep) hne
      simpa [hkept] using hhead
    have hmem : c ∈ s.toList := by
      have hsuffix := (List.dropWhile_suffix (l := s.toList.reverse) (· == sep)).subset
      rw [hkept] at hsuffix
      exact List.mem_reverse.mp (hsuffix List.mem_cons_self)
    refine iff_of_false ?_ fun hall => ?_
    · simp [bne, hc]
    · simp [hall c hmem] at hc

namespace Identity

variable {i : Identity}

/-- Empty identities have an empty canonical id, and so have URLs of nothing but slashes. -/
theorem canonicalId_eq_empty_iff : i.canonicalId = "" ↔
    i.isEmpty = true ∨ i.form = .href ∧ ∀ c ∈ i.value.toList, c = '/' := by
  obtain ⟨form, value⟩ := i
  unfold canonicalId isEmpty
  cases form with
  | id => simp
  | href =>
    dsimp only
    rw [Text.lastSegment_dropTrailing, String.isEmpty_iff]
    constructor
    · intro hall
      exact .inr ⟨rfl, hall⟩
    · rintro (rfl | ⟨-, hall⟩)
      · simp
      · exact hall
  | crn =>
    dsimp only
    by_cases hlast : (Text.lastSegment ':' value).isEmpty = true
    · rw [if_pos hlast]
      simp
    · rw [if_neg hlast]
      have hne : ¬ Text.lastSegment ':' value = "" := fun e => hlast (String.isEmpty_iff.mpr e)
      refine iff_of_false hne ?_
      rintro (hvalue | ⟨⟨⟩, -⟩)
      rw [String.isEmpty_iff.mp hvalue] at hne
      exact hne rfl

/-- A canonical id that is not empty is one that there is. -/
theorem canonicalId?_some (h : i.canonicalId ≠ "") : canonicalId? (some i) = some i.canonicalId :=
  if_pos (by simpa using h)

theorem canonicalId?_none (h : i.canonicalId = "") : canonicalId? (some i) = none :=
  if_neg (by simpa using h)

theorem canonicalId?_eq_none_iff : canonicalId? (some i) = none ↔ i.canonicalId = "" := by
  refine ⟨fun hnone => ?_, canonicalId?_none⟩
  by_contra hne
  rw [canonicalId?_some hne] at hnone
  cases hnone

end Identity

end ResourceOperator
