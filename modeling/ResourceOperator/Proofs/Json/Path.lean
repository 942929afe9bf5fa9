import ResourceOperator.Proofs.Json.Codec

/-!
# Values at a path after a merge

What a merge does to the value at a path is told by the patch. Where the patch has something that is
no object there, that takes the place of whatever the target has, and a null removes it. Where the
patch says nothing about the path, the value stays.

Results:
* `at?_merge_of_atom`: what the patch has at a path takes the place of what the target has there.
* `at?_merge_of_silent`: a path that the patch says nothing about keeps its value.
-/

namespace ResourceOperator.Json

/-- The value at a path of member names. -/
def at? : List String → Json → Option Json
  | [], v => some v
  | name :: path, v => (v.get? name).bind (at? path)

/-- A document that a merge takes as a whole: any but an object. -/
def Atom : Json → Prop
  | .object _ => False
  | _ => True

/-- The document is an object, and so is every value along the path, up to a member that is
missing. -/
def Silent : List String → Json → Prop
  | name :: path, .object members =>
    ∀ v, Table.get? name members = some v → Silent path v
  | _, _ => False

variable {name : String} {path : List String} {patch w : Json}

theorem at?_cons (v : Json) : at? (name :: path) v = (v.get? name).bind (at? path) := rfl

/-- A missing document has as little at a path as null has. -/
theorem at?_getD_null (name : String) (path : List String) (v : Option Json) :
    at? (name :: path) (v.getD .null) = v.bind (at? (name :: path)) := by
  cases v <;> rfl

theorem mergeField_atom (old : Option Json) (h : w.Atom) :
    mergeField old (some w) = Reader.given any w := by
  cases w with
  | object _ => cases h
  | _ => rfl

/-- A member is one of an object. -/
theorem get?_eq_some {v : Json} : v.get? name = some w ↔
    ∃ members, v = .object members ∧ Table.get? name members = some w := by
  cases v <;> simp [Json.get?]

/-- **What the patch has at a path takes the place** of what the target has there, and a null
removes it. -/
theorem at?_merge_of_atom (hc : patch.Canonical) (h : at? (name :: path) patch = some w)
    (hw : w.Atom) (target : Json) :
    at? (name :: path) (target.merge patch) = Reader.given any w := by
  induction path generalizing name patch target with
  | nil =>
    obtain ⟨v, hv, hat⟩ := Option.bind_eq_some_iff.mp h
    obtain rfl : v = w := Option.some.inj hat
    obtain ⟨changes, rfl, hget⟩ := get?_eq_some.mp hv
    have hn : (Table.keys changes).Nodup := (canonical_object.mp hc).1.nodup_keys
    rw [at?_cons, get?_merge target hn, hget, mergeField_atom _ hw]
    exact Option.bind_fun_some _
  | cons next path ih =>
    obtain ⟨v, hv, hat⟩ := Option.bind_eq_some_iff.mp h
    obtain ⟨changes, rfl, hget⟩ := get?_eq_some.mp hv
    obtain ⟨x, hx, -⟩ := Option.bind_eq_some_iff.mp hat
    obtain ⟨inner, rfl, -⟩ := get?_eq_some.mp hx
    have hn : (Table.keys changes).Nodup := (canonical_object.mp hc).1.nodup_keys
    rw [at?_cons, get?_merge target hn, hget, mergeField_object, Option.bind_some]
    exact ih (hc.member hget) hat _

/-- **A path that the patch says nothing about** keeps its value. -/
theorem at?_merge_of_silent (hc : patch.Canonical) (h : patch.Silent path) (target : Json) :
    at? path (target.merge patch) = at? path target := by
  induction path generalizing patch target with
  | nil => cases patch <;> cases h
  | cons name path ih =>
    cases patch with
    | object changes =>
      have hn : (Table.keys changes).Nodup := (canonical_object.mp hc).1.nodup_keys
      rw [at?_cons, get?_merge target hn, at?_cons]
      cases hv : Table.get? name changes with
      | none => rw [mergeField_none]
      | some v =>
        have hsilent : v.Silent path := h v hv
        have hnull : v ≠ .null := by
          rintro rfl
          cases path <;> cases hsilent
        rw [mergeField_some hnull, Option.bind_some, ih (hc.member hv) hsilent]
        cases path with
        | nil => cases v <;> cases hsilent
        | cons next path => exact at?_getD_null next path _
    | _ => cases h

end ResourceOperator.Json
