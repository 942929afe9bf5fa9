import ResourceOperator.Managed

/-!
# Conditions set

`Condition.first` is the first condition of an aspect, which is the one that counts. Setting a
condition makes the first one of its aspect equivalent to it, leaves the first one of the other
aspect, and changes nothing where an equivalent one is first already.

Results:
* `first_set`, `first_set_of_ne`: what setting a condition does to the first ones.
* `set_of_equivalent`: setting a condition that is equivalent to the first one changes nothing, so
  that its time stays.
* `Managed.shows_setCondition`, `Managed.setCondition_of_shows`: the same of a declared resource.
-/

namespace ResourceOperator

namespace Condition

/-- The first condition of an aspect. -/
def first (aspect : Aspect) (conditions : List Condition) : Option Condition :=
  conditions.find? fun c => c.aspect = aspect

theorem equivalent_iff {a b : Condition} :
    a.equivalent b = true ↔
      a.aspect = b.aspect ∧ a.verdict = b.verdict ∧ a.reason = b.reason ∧ a.message = b.message := by
  simp [equivalent, and_assoc]

theorem equivalent_refl (c : Condition) : c.equivalent c = true :=
  equivalent_iff.mpr ⟨rfl, rfl, rfl, rfl⟩

@[simp] theorem first_nil (aspect : Aspect) : first aspect [] = none := rfl

theorem first_cons (aspect : Aspect) (c : Condition) (rest : List Condition) :
    first aspect (c :: rest) = if c.aspect = aspect then some c else first aspect rest := by
  by_cases h : c.aspect = aspect <;> simp [first, h]

/-- The first condition of an aspect that is set is equivalent to what it is set to. -/
theorem first_set (c : Condition) (conditions : List Condition) :
    ∃ d, first c.aspect (c.set conditions) = some d ∧ d.equivalent c = true := by
  induction conditions with
  | nil => exact ⟨c, by simp [set, first_cons], equivalent_refl c⟩
  | cons d rest ih =>
    by_cases ha : d.aspect = c.aspect
    · by_cases he : d.equivalent c = true
      · exact ⟨d, by simp [set, ha, he, first_cons], he⟩
      · exact ⟨c, by simp [set, ha, he, first_cons], equivalent_refl c⟩
    · simpa [set, ha, first_cons] using ih

/-- The first condition of another aspect stays. -/
theorem first_set_of_ne {aspect : Aspect} {c : Condition} (h : c.aspect ≠ aspect)
    (conditions : List Condition) : first aspect (c.set conditions) = first aspect conditions := by
  induction conditions with
  | nil => simp [set, first_cons, h]
  | cons d rest ih =>
    by_cases ha : d.aspect = c.aspect
    · by_cases he : d.equivalent c = true <;> simp [set, ha, he, first_cons, h]
    · simp [set, ha, first_cons, ih]

/-- A condition that is equivalent to the first one changes nothing. -/
theorem set_of_equivalent {c d : Condition} {conditions : List Condition}
    (hd : first c.aspect conditions = some d) (he : d.equivalent c = true) :
    c.set conditions = conditions := by
  induction conditions with
  | nil => cases hd
  | cons b rest ih =>
    rw [first_cons] at hd
    by_cases ha : b.aspect = c.aspect
    · rw [if_pos ha] at hd
      obtain rfl : b = d := Option.some.inj hd
      simp [set, ha, he]
    · rw [if_neg ha] at hd
      simp [set, ha, ih hd]

end Condition

namespace Managed

variable {k : Kind} {r : Managed k} {c : Condition}

/-- The resource has a status, and its first condition of this aspect is equivalent to this one. -/
def Shows (r : Managed k) (c : Condition) : Prop :=
  ∃ status d, r.status = some status ∧ Condition.first c.aspect status.conditions = some d ∧
    d.equivalent c = true

theorem shows_setCondition (r : Managed k) (c : Condition) : (r.setCondition c).Shows c := by
  obtain ⟨d, hd, he⟩ := Condition.first_set c (r.status.getD .empty).conditions
  exact ⟨_, d, rfl, hd, he⟩

/-- Setting what a resource shows changes nothing. -/
theorem setCondition_of_shows (h : r.Shows c) : r.setCondition c = r := by
  obtain ⟨status, d, hs, hd, he⟩ := h
  obtain ⟨metadata, spec, _⟩ := r
  obtain rfl : _ = some status := hs
  rw [setCondition]
  simp only [Option.getD_some, Condition.set_of_equivalent hd he]

/-- Setting a condition of another aspect leaves what a resource shows. -/
theorem Shows.setCondition {other : Condition} (h : r.Shows c) (ho : other.aspect ≠ c.aspect) :
    (r.setCondition other).Shows c := by
  obtain ⟨status, d, hs, hd, he⟩ := h
  refine ⟨_, d, rfl, ?_, he⟩
  rw [hs]
  exact (Condition.first_set_of_ne ho _).trans hd

end Managed

end ResourceOperator
