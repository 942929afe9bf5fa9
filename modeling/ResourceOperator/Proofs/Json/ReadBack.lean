import ResourceOperator.Proofs.Json.Codec

/-!
# Values that are read back

A value is written as a document, and read from it again. A reader and a writer are `Faithful` where
every value comes back so. Not all are: a number is written whatever its size, and read within
bounds only, and a document that may be missing is not read back where it is null. Such a value
comes back where it was read before (`Read`).

For a record whose fields are faithful it is enough to look them up. For another record,
`Reader.Yields` follows its reader to what is true of the fields that were read.

Results:
* `Faithful.optional`, `optionalField_map`: a field that may be unset is read back.
* `faithful_text`, `faithful_choice`, `list_encoded` and others: plain values.
* `yields_bind` and one lemma for each way to read a field.
-/

namespace ResourceOperator.Json

variable {α β : Type} {decode : Json → Option α} {encode : α → Json}

/-- Every value is read from what it is written as, and none is read from null. -/
structure Faithful (decode : Json → Option α) (encode : α → Json) : Prop where
  refuses : decode .null = none
  kept : ∀ a, decode (encode a) = some a

/-- The value is read from some document. -/
def Read (decode : Json → Option α) (a : α) : Prop :=
  ∃ v, decode v = some a

theorem Readable.read {a : α} (h : Readable decode a) : Read decode a :=
  h.imp fun _ => And.right

/-! ## Fields -/

theorem requiredField_some (v : Json) : requiredField decode (some v) = decode v := rfl

theorem defaultedField_some (value : α) (v : Json) :
    defaultedField value decode (some v) = decode v := rfl

/-- A field that may be unset is read back where its value is. -/
theorem optionalField_map (hnull : decode .null = none) {value : Option α}
    (h : ∀ a, value = some a → decode (encode a) = some a) :
    optionalField decode (value.map encode) = some value := by
  cases value with
  | none => rfl
  | some a =>
    have hread := h a rfl
    refine optionalField_eq_some_some.mpr ⟨encode a, rfl, fun e => ?_, hread⟩
    rw [e, hnull] at hread
    cases hread

theorem Faithful.optional (h : Faithful decode encode) (value : Option α) :
    optionalField decode (value.map encode) = some value :=
  optionalField_map h.refuses fun a _ => h.kept a

/-- A document that may be missing is read as it is, unless it is null. -/
theorem optionalField_any {value : Option Json} (h : value ≠ some .null) :
    optionalField any value = some value := by
  cases value with
  | none => rfl
  | some v => exact optionalField_eq_some_some.mpr ⟨v, rfl, fun e => h (e ▸ rfl), rfl⟩

/-! ## Plain values -/

theorem faithful_text : Faithful text .string := ⟨rfl, fun _ => rfl⟩

theorem faithful_flag : Faithful flag .bool := ⟨rfl, fun _ => rfl⟩

theorem faithful_textList : Faithful (list text) ofStrings :=
  ⟨rfl, fun _ => list_text_eq_some.mpr rfl⟩

theorem faithful_texts : Faithful (table text) ofTexts :=
  ⟨rfl, fun _ => table_text_eq_some.mpr rfl⟩

/-- A name out of a finite choice. -/
theorem faithful_choice {named : String → Option α} {name : α → String}
    (h : ∀ a, named (name a) = some a) : Faithful (choice named) fun a => .string (name a) :=
  ⟨rfl, h⟩

/-- A list is read from what its items are written as. -/
theorem list_encoded (h : ∀ a, decode (encode a) = some a) (as : List α) :
    list decode (.array (as.map encode)) = some as := by
  rw [list_array]
  induction as with
  | nil => rfl
  | cons a rest ih =>
    rw [List.map_cons, List.mapM_cons, h, ih]
    rfl

/-- A list of documents is read as it is. -/
theorem list_any (items : List Json) : list any (Json.array items) = some items := by
  have hlist := @list_encoded Json any id (fun _ => rfl) items
  rwa [List.map_id] at hlist

/-- A number that was read from anything is read back. -/
theorem int64_ofInt_of_eq {D : Type} [Document D] {d : D} {n : Int} (h : int64 d = some n) :
    int64 (ofInt n) = some n := by
  unfold int64 integer at h
  split at h
  · split at h
    · next hrange =>
      cases h
      exact if_pos hrange
    · cases h
  · cases h

theorem int64_ofInt {n : Int} (h : Read int64 n) : int64 (ofInt n) = some n :=
  h.elim fun _ => int64_ofInt_of_eq

theorem read_of_int64 {D : Type} [Document D] (d : D) (n : Int) (h : int64 d = some n) :
    Read int64 n :=
  ⟨ofInt n, int64_ofInt_of_eq h⟩

theorem read_zero : Read int64 0 := ⟨ofInt 0, rfl⟩

/-! ## What a reader yields -/

namespace Reader

/-- What the reader reads has a property, whatever it reads it from. -/
def Yields {D : Type} (post : α → Prop) (reader : Reader D α) : Prop :=
  ∀ fields a rest, reader fields = some (a, rest) → post a

variable {D : Type} {name : String} {post : β → Prop} {reader : Reader D α} {f : α → Reader D β}

theorem yields_pure {b : β} (h : post b) : (pure b : Reader D β).Yields post := by
  intro fields a rest hr
  cases hr
  exact h

theorem yields_bind {first : α → Prop} (hr : reader.Yields first)
    (hf : ∀ a, first a → (f a).Yields post) : (reader >>= f).Yields post := by
  intro fields b rest h
  obtain ⟨⟨a, middle⟩, ha, hb⟩ := Option.bind_eq_some_iff.mp h
  exact hf a (hr fields a middle ha) middle b rest hb

/-- A field of which nothing needs to be known. -/
theorem yields_after (hf : ∀ a, (f a).Yields post) : (reader >>= f).Yields post :=
  yields_bind (fun _ _ _ _ => trivial) fun a (_ : True) => hf a

/-- What is read from a field that must be there is what can be read. -/
theorem yields_required_of [Document D] {decode : D → Option α} {first : α → Prop}
    (h : ∀ v a, decode v = some a → first a) : (required name decode).Yields first := by
  intro fields a rest hr
  obtain ⟨⟨v, middle⟩, -, hv⟩ := Option.bind_eq_some_iff.mp hr
  cases v with
  | none => cases hv
  | some v =>
    obtain ⟨b, hb, e⟩ := Option.bind_eq_some_iff.mp hv
    cases e
    exact h v a hb

/-- The same of a field with a default. -/
theorem yields_defaulted_of [Document D] {decode : D → Option α} {first : α → Prop} {value : α}
    (hd : first value) (h : ∀ v a, decode v = some a → first a) :
    (defaulted name value decode).Yields first := by
  intro fields a rest hr
  obtain ⟨⟨v, middle⟩, -, hv⟩ := Option.bind_eq_some_iff.mp hr
  cases v with
  | none =>
    cases hv
    exact hd
  | some v =>
    obtain ⟨b, hb, e⟩ := Option.bind_eq_some_iff.mp hv
    cases e
    exact h v a hb

theorem yields_required : (required name decode).Yields (Read decode) :=
  yields_required_of fun v _ hv => ⟨v, hv⟩

theorem yields_defaulted {value : α} (hd : Read decode value) :
    (defaulted name value decode).Yields (Read decode) :=
  yields_defaulted_of hd fun v _ hv => ⟨v, hv⟩

/-- The value of a field that may be null was read from a document that is not. -/
def ReadOptional (decode : Json → Option α) (value : Option α) : Prop :=
  ∀ a, value = some a → Read (given decode) a

theorem readOptional_of_nullable {v : Json} {value : Option α}
    (h : nullable decode v = some value) : ReadOptional decode value := by
  rintro a rfl
  rcases nullable_eq_some.mp h with ⟨-, e⟩ | ⟨b, hb, e⟩
  · cases e
  · cases e
    exact ⟨v, hb⟩

theorem ReadOptional.read {value : Option α} (h : ReadOptional decode value) {a : α}
    (ha : value = some a) : Read decode a := by
  obtain ⟨v, hv⟩ := h a ha
  refine ⟨v, ?_⟩
  cases v with
  | null => cases hv
  | _ => exact hv

/-- A document that was read from where null may stand is not null. -/
theorem ReadOptional.ne_null {value : Option Json} (h : ReadOptional any value) :
    value ≠ some .null := by
  intro e
  obtain ⟨v, hv⟩ := h .null e
  cases v <;> cases hv

/-- A number that may be missing is read back. -/
theorem ReadOptional.int64 {value : Option Int} (h : ReadOptional Json.int64 value) :
    optionalField Json.int64 (value.map ofInt) = some value :=
  optionalField_map rfl fun _ ha => int64_ofInt (h.read ha)

theorem yields_lastOptional : (lastOptional name decode).Yields (ReadOptional decode) := by
  have hdefault : Read (nullable decode) none := ⟨.null, rfl⟩
  intro fields value rest h
  obtain ⟨v, hv⟩ := yields_defaulted hdefault fields value rest h
  exact readOptional_of_nullable hv

theorem yields_optional : (optional name decode).Yields (ReadOptional decode) := by
  rintro (members | _ | ⟨v, items⟩) value rest h
  · rw [optional_named] at h
    obtain ⟨b, hb, e⟩ := Option.map_eq_some_iff.mp h
    cases e
    cases hv : Table.get? name members with
    | none =>
      rw [hv] at hb
      cases hb
      exact nofun
    | some v =>
      rw [hv] at hb
      exact readOptional_of_nullable hb
  · cases h
  · obtain ⟨b, hb, e⟩ := Option.map_eq_some_iff.mp h
    cases e
    exact readOptional_of_nullable hb

/-- What is read as a record has the properties that its reader yields. -/
theorem yields_read [Document D] (post : α → Prop) {v : D} {a : α} (h : read reader v = some a)
    (hr : reader.Yields post) : post a := by
  unfold read at h
  split at h
  · obtain ⟨⟨b, rest⟩, hb, e⟩ := Option.map_eq_some_iff.mp h
    cases e
    exact hr _ b rest hb
  · split at h
    · next b hb =>
      cases h
      exact hr _ a _ hb
    · cases h
  · cases h

/-- The same of a record that is read from objects only. -/
theorem yields_readObject [Document D] (post : α → Prop) {v : D} {a : α}
    (h : readObject reader v = some a) (hr : reader.Yields post) : post a := by
  unfold readObject at h
  split at h
  · obtain ⟨⟨b, rest⟩, hb, e⟩ := Option.map_eq_some_iff.mp h
    cases e
    exact hr _ b rest hb
  · cases h

/-- A field that may be missing altogether is read from an object like one that may be null. -/
theorem lastOptional_bind_named {members : List (String × Json)} {rest : Fields Json} {b : β}
    {f : Option α → Reader Json β} :
    (lastOptional name decode >>= f) (.named members) = some (b, rest) ↔
      ∃ a, optionalField decode (Table.get? name members) = some a ∧
        f a (.named members) = some (b, rest) := by
  rw [lastOptional, defaulted_bind_named]
  cases Table.get? name members <;> rfl

end Reader

end ResourceOperator.Json
