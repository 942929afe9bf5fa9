import Mathlib.Tactic.Simproc.ExistsAndEq
import ResourceOperator.Json.Record
import ResourceOperator.Proofs.Json.Merge

/-!
# Records read from objects

Out of an object every field is read by itself, from the member of its name. `requiredField`,
`optionalField` and `defaultedField` are these readings of a member that may be missing; the simp
lemmas turn a reader on an object into the conjunction of them.
-/

namespace ResourceOperator.Json

variable {α β : Type}

/-- Reads a member that must be there. -/
def requiredField (decode : Json → Option α) (value : Option Json) : Option α :=
  value.bind decode

/-- Reads a member that may be missing or null. -/
def optionalField (decode : Json → Option α) : Option Json → Option (Option α)
  | none => some none
  | some v => Reader.nullable decode v

/-- Reads a member with a value to use when it is missing. -/
def defaultedField (value : α) (decode : Json → Option α) : Option Json → Option α
  | none => some value
  | some v => decode v

section Fields

variable {decode : Json → Option α} {value : Option Json} {v : Json} {a : α}

@[simp] theorem nullable_null : Reader.nullable decode .null = some none := rfl

theorem nullable_of_ne_null (h : v ≠ .null) :
    Reader.nullable decode v = (decode v).map some := by
  cases v with
  | null => exact absurd rfl h
  | _ => rfl

@[simp] theorem requiredField_eq_some :
    requiredField decode value = some a ↔ ∃ v, value = some v ∧ decode v = some a :=
  Option.bind_eq_some_iff

/-- A value is read from a member that is there and not null. -/
@[simp] theorem optionalField_eq_some_some :
    optionalField decode value = some (some a) ↔
      ∃ v, value = some v ∧ v ≠ .null ∧ decode v = some a := by
  cases value with
  | none => simp [optionalField]
  | some v =>
    by_cases hv : v = .null
    · subst hv
      simp [optionalField]
    · simp [optionalField, nullable_of_ne_null hv, hv]

@[simp] theorem optionalField_eq_some_none :
    optionalField decode value = some none ↔ value = none ∨ value = some .null := by
  cases value with
  | none => simp [optionalField]
  | some v =>
    by_cases hv : v = .null
    · subst hv
      simp [optionalField]
    · simp [optionalField, nullable_of_ne_null hv, hv]

end Fields

namespace Reader

variable {name : String} {decode : Json → Option α} {members : List (String × Json)}

theorem bind_apply {D : Type} (reader : Reader D α) (f : α → Reader D β) (fields : Fields D) :
    (reader >>= f) fields = (reader fields).bind fun out => f out.1 out.2 := rfl

theorem required_named :
    required name decode (.named members) =
      (requiredField decode (Table.get? name members)).map (·, .named members) := by
  rw [required, bind_apply, next, member?_eq, Option.map_some, Option.bind_some]
  cases Table.get? name members with
  | none => rfl
  | some v =>
    show (decode v).bind _ = (decode v).map _
    cases decode v <;> rfl

theorem optional_named :
    optional name decode (.named members) =
      (optionalField decode (Table.get? name members)).map (·, .named members) := by
  rw [optional, member?_eq, Option.bind_some]
  cases Table.get? name members <;> rfl

theorem defaulted_named (value : α) :
    defaulted name value decode (.named members) =
      (defaultedField value decode (Table.get? name members)).map (·, .named members) := by
  rw [defaulted, bind_apply, next, member?_eq, Option.map_some, Option.bind_some]
  cases Table.get? name members with
  | none => rfl
  | some v =>
    show (decode v).bind _ = (decode v).map _
    cases decode v <;> rfl

section Named

variable {rest : Fields Json} {b : β}

@[simp] theorem required_bind_named {f : α → Reader Json β} :
    (required name decode >>= f) (.named members) = some (b, rest) ↔
      ∃ a, requiredField decode (Table.get? name members) = some a ∧
        f a (.named members) = some (b, rest) := by
  rw [bind_apply, required_named, Option.bind_map, Option.bind_eq_some_iff]
  rfl

@[simp] theorem optional_bind_named {f : Option α → Reader Json β} :
    (optional name decode >>= f) (.named members) = some (b, rest) ↔
      ∃ a, optionalField decode (Table.get? name members) = some a ∧
        f a (.named members) = some (b, rest) := by
  rw [bind_apply, optional_named, Option.bind_map, Option.bind_eq_some_iff]
  rfl

@[simp] theorem defaulted_bind_named {value : α} {f : α → Reader Json β} :
    (defaulted name value decode >>= f) (.named members) = some (b, rest) ↔
      ∃ a, defaultedField value decode (Table.get? name members) = some a ∧
        f a (.named members) = some (b, rest) := by
  rw [bind_apply, defaulted_named, Option.bind_map, Option.bind_eq_some_iff]
  rfl

@[simp] theorem pure_apply (a : α) (fields : Fields Json) :
    (pure a : Reader Json α) fields = some (a, fields) := rfl

@[simp] theorem read_object {reader : Reader Json α} {a : α} :
    read reader (.object members) = some a ↔
      ∃ rest, reader (.named members) = some (a, rest) := by
  simp [read]

@[simp] theorem readObject_object {reader : Reader Json α} {a : α} :
    readObject reader (.object members) = some a ↔
      ∃ rest, reader (.named members) = some (a, rest) := by
  simp [readObject]

end Named

/-! ## Arrays -/

section Arrays

variable {v : Json} {items : List Json} {rest : Fields Json} {b : β}

@[simp] theorem required_bind_placed_nil {f : α → Reader Json β} :
    (required name decode >>= f) (.placed []) = none := rfl

@[simp] theorem required_bind_placed_cons {f : α → Reader Json β} :
    (required name decode >>= f) (.placed (v :: items)) = some (b, rest) ↔
      ∃ a, decode v = some a ∧ f a (.placed items) = some (b, rest) := by
  rw [bind_apply, ← Option.bind_eq_some_iff]
  show ((decode v).bind _).bind _ = _ ↔ _
  cases decode v <;> rfl

@[simp] theorem optional_bind_placed_nil {f : Option α → Reader Json β} :
    (optional name decode >>= f) (.placed []) = none := rfl

@[simp] theorem optional_bind_placed_cons {f : Option α → Reader Json β} :
    (optional name decode >>= f) (.placed (v :: items)) = some (b, rest) ↔
      ∃ a, nullable decode v = some a ∧ f a (.placed items) = some (b, rest) := by
  rw [bind_apply, ← Option.bind_eq_some_iff]
  show ((nullable decode v).map _).bind _ = _ ↔ _
  cases nullable decode v <;> rfl

/-- An array is read when its elements are used up. -/
theorem read_array {reader : Reader Json α} {a : α} :
    read reader (.array items) = some a ↔ reader (.placed items) = some (a, .placed []) := by
  rw [read, shape_array]
  dsimp only
  constructor
  · intro h
    split at h
    · next b hb => cases h; exact hb
    · cases h
  · intro h
    rw [h]

end Arrays

end Reader

/-! ## Values that are read without loss -/

@[simp] theorem text_eq_some {v : Json} {s : String} : text v = some s ↔ v = .string s := by
  cases v <;> simp [text]

theorem list_array (decode : Json → Option α) (items : List Json) :
    list decode (.array items) = items.mapM decode := rfl

/-- A list of text is read from the array that it is written as, and from no other. -/
@[simp] theorem list_text_eq_some {v : Json} {xs : List String} :
    list text v = some xs ↔ v = ofStrings xs := by
  cases v with
  | array items =>
    rw [list_array, ofStrings, Json.array.injEq]
    induction items generalizing xs with
    | nil => cases xs <;> simp
    | cons v rest ih =>
      rw [List.mapM_cons]
      cases xs with
      | nil => simp [Option.bind_eq_some_iff]
      | cons x tail => simp [Option.bind_eq_some_iff, ih]
  | _ => simp [list, ofStrings]

/-- A table of text is read from the object that it is written as, and from no other. -/
@[simp] theorem table_text_eq_some {v : Json} {t : Table String} :
    table text v = some t ↔ v = ofTexts t := by
  cases v with
  | object members =>
    rw [table, ofTexts, Json.object.injEq]
    induction members generalizing t with
    | nil => cases t <;> simp [Table.mapValues]
    | cons e rest ih =>
      obtain ⟨key, v⟩ := e
      cases t with
      | nil => simp [Option.bind_eq_some_iff, Table.mapValues]
      | cons d tail =>
        obtain ⟨key', text'⟩ := d
        simp only [List.mapM_cons, Option.bind_eq_bind, Option.bind_eq_some_iff, ih]
        simp only [Table.mapValues, List.map_cons, List.cons.injEq, Prod.mk.injEq]
        constructor
        · rintro ⟨e, he, rest, rfl, h⟩
          obtain ⟨text, ht, rfl⟩ := Option.map_eq_some_iff.mp he
          cases h
          exact ⟨⟨rfl, text_eq_some.mp ht⟩, rfl⟩
        · rintro ⟨⟨rfl, rfl⟩, rfl⟩
          exact ⟨_, rfl, tail, rfl, rfl⟩
  | _ => simp [table, ofTexts]

end ResourceOperator.Json
