import ResourceOperator.Cloud.ObjectReference

/-!
# Unset values

An unset desired value expresses no opinion. It agrees with anything, and it is filled in from what
was observed. Text counts as unset when it is empty, an identity when its value is. A `Filled` value
carries whether filling changed it; `Filled.changed_iff` lemmas say that the mark is exact.

`ofOption` is `late_init`, `ofText` is `late_init_string`, `ofRequired` is `late_init_required`, and
`ofIdentity` is `late_init_identity`; `unsetOrEqual` is `unset_or_equal`, and `nonEmpty` is
`non_empty`.
-/

namespace ResourceOperator

open Cloud

/-- The result of filling a value: what it is now, and whether that is a change. -/
structure Filled (α : Type) where
  value : α
  changed : Bool
  deriving DecidableEq, Repr

/-- A text, unless it is empty. -/
def nonEmpty (s : String) : Option String :=
  if s.isEmpty then none else some s

/-- An unset or empty desired text agrees with anything, any other only with its equal. -/
def unsetOrEqual (desired actual : Option String) : Bool :=
  match desired with
  | none => true
  | some d => d.isEmpty || actual == some d

namespace Filled

variable {α : Type}

/-- A value that is left as it is. -/
def keep (value : α) : Filled α :=
  ⟨value, false⟩

/-- Fills an unset value. -/
def ofOption (desired observed : Option α) : Filled (Option α) :=
  match desired, observed with
  | none, some v => ⟨some v, true⟩
  | d, _ => keep d

/-- Fills an unset or empty text. -/
def ofText (desired : Option String) (observed : String) : Filled (Option String) :=
  if (desired.getD "").isEmpty && !observed.isEmpty then ⟨some observed, true⟩ else keep desired

/-- Fills an empty text. -/
def ofRequired (desired observed : String) : Filled String :=
  if desired.isEmpty && !observed.isEmpty then ⟨observed, true⟩ else keep desired

/-- Fills an unset or empty identity from a reference: an unset one by id, an empty one in its own
representation. -/
def ofIdentity (desired : Option Identity) (observed : Option ObjectReference) :
    Filled (Option Identity) :=
  match observed, desired with
  | none, d => keep d
  | some r, none => if r.id.isEmpty then keep none else ⟨some (.byId r.id), true⟩
  | some r, some i =>
    if i.isEmpty && !(r.part i.form).isEmpty then ⟨some (i.withValue (r.part i.form)), true⟩
    else keep (some i)

/-- The mark of `ofOption` is set exactly when the value differs. -/
theorem ofOption_changed_iff (desired observed : Option α) :
    (ofOption desired observed).changed = true ↔ (ofOption desired observed).value ≠ desired := by
  cases desired <;> cases observed <;> simp [ofOption, keep]

/-- The mark of `ofText` is set exactly when the value differs. -/
theorem ofText_changed_iff (desired : Option String) (observed : String) :
    (ofText desired observed).changed = true ↔ (ofText desired observed).value ≠ desired := by
  unfold ofText
  split
  · next h =>
    simp only [Bool.and_eq_true] at h
    constructor
    · rintro - rfl
      simp only [Option.getD_some] at h
      simp [h.1] at h
    · intro _; rfl
  · simp [keep]

/-- The mark of `ofRequired` is set exactly when the value differs. -/
theorem ofRequired_changed_iff (desired observed : String) :
    (ofRequired desired observed).changed = true ↔
      (ofRequired desired observed).value ≠ desired := by
  unfold ofRequired
  split
  · next h =>
    simp only [Bool.and_eq_true] at h
    constructor
    · rintro - rfl
      simp [h.1] at h
    · intro _; rfl
  · simp [keep]

end Filled

end ResourceOperator
