import ResourceOperator.Proofs.Json.Codec

/-!
# Documents that are written in order

An encoder lists the members of a record one after the other, and leaves out those without a value.
They are in order because the list of all their names is: `canonical_of_names`.
-/

namespace ResourceOperator.Json

variable {name : String} {value : Option Json} {members xs ys : List (String × Json)}
  {names first second : List String}

/-- The members have names out of a list, in the order of the list. -/
def Names (members : List (String × Json)) (names : List String) : Prop :=
  (Table.keys members).Sublist names

theorem names_member : Names (member name value) [name] := by
  cases value with
  | none => exact List.nil_sublist _
  | some v => exact List.Sublist.refl _

theorem names_nil : Names [] [] := List.Sublist.refl _

theorem Names.cons (h : Names members names) {v : Json} :
    Names ((name, v) :: members) (name :: names) :=
  List.Sublist.cons_cons name h

/-- One member. -/
theorem names_single {v : Json} : Names [(name, v)] [name] := names_nil.cons

theorem Names.append (hx : Names xs first) (hy : Names ys second) :
    Names (xs ++ ys) (first ++ second) := by
  rw [Names, Table.keys, List.map_append]
  exact List.Sublist.append hx hy

/-- Members in order, each of which is in order. -/
theorem canonical_of_names (hs : Names members names) (hn : names.Pairwise (· < ·))
    (hm : CanonicalMembers members) : Canonical (.object members) :=
  ⟨List.pairwise_map.mp (hn.sublist hs), hm⟩

/-! ## Members one by one -/

@[simp] theorem canonicalMembers_nil : CanonicalMembers [] := trivial

@[simp] theorem canonicalMembers_cons {v : Json} :
    CanonicalMembers ((name, v) :: members) ↔ v.Canonical ∧ CanonicalMembers members := Iff.rfl

@[simp] theorem canonicalMembers_append :
    CanonicalMembers (xs ++ ys) ↔ CanonicalMembers xs ∧ CanonicalMembers ys := by
  induction xs with
  | nil => simp
  | cons e rest ih =>
    obtain ⟨name, v⟩ := e
    simp [ih, and_assoc]

theorem canonicalMembers_member :
    CanonicalMembers (member name value) ↔ ∀ v, value = some v → v.Canonical := by
  cases value <;> simp

@[simp] theorem canonicalMembers_member_map {α : Type} {encode : α → Json} {value : Option α} :
    CanonicalMembers (member name (value.map encode)) ↔
      ∀ a, value = some a → (encode a).Canonical := by
  cases value <;> simp

@[simp] theorem canonical_string (s : String) : (string s).Canonical := trivial

@[simp] theorem canonical_bool (b : Bool) : (Json.bool b).Canonical := trivial

@[simp] theorem canonical_ofInt (i : Int) : (ofInt i).Canonical := trivial

end ResourceOperator.Json
