import ResourceOperator.Proofs.Json.Record

/-!
# Writing back what was read

A value is stored by merging what it is written as into a document. It is read back unchanged when
the document is one that it was read from, or has nothing to keep: that is `Fits`, and a reader and
a writer for which it suffices are `Persistent`. A member of the document survives the merge unless
the value writes it, which is why a value that fits nowhere need not be read back. `Optionally` is
the same of a value that may be unset, for any notion of what fits.

For records, `Reader.Fits` follows a reader through its fields: what it reads fits the members that
it reads from.

Results:
* `Persistent.required`, `Persistent.optional`, `Persistent.defaulted`, `Optionally.read_back`: a
  member that its value fits is read back.
* `fits_bind` and one lemma for each way to read a field: what a record's fields fit.
* `persistent_text`, `persistent_int64`, `persistent_choice`, `persistent_texts`.
-/

namespace ResourceOperator.Json

/-! ## Documents in order -/

mutual

/-- The members of every object in the document are in order. -/
def Canonical : Json → Prop
  | .array items => CanonicalItems items
  | .object members => Table.Sorted members ∧ CanonicalMembers members
  | .null | .bool _ | .number _ | .string _ => True

/-- Every item is in order. -/
def CanonicalItems : List Json → Prop
  | [] => True
  | v :: rest => v.Canonical ∧ CanonicalItems rest

/-- Every member is in order. -/
def CanonicalMembers : List (String × Json) → Prop
  | [] => True
  | (_, v) :: rest => v.Canonical ∧ CanonicalMembers rest

end

mutual

/-- Decides whether a document is in order. -/
def decideCanonical : (v : Json) → Decidable v.Canonical
  | .array items => decideCanonicalItems items
  | .object members =>
    match inferInstanceAs (Decidable (List.Pairwise (fun a b => a.1 < b.1) members)),
      decideCanonicalMembers members with
    | isTrue hs, isTrue hm => isTrue ⟨hs, hm⟩
    | isFalse hs, _ => isFalse fun h => hs h.1
    | _, isFalse hm => isFalse fun h => hm h.2
  | .null | .bool _ | .number _ | .string _ => isTrue trivial

/-- Decides whether every item is in order. -/
def decideCanonicalItems : (items : List Json) → Decidable (CanonicalItems items)
  | [] => isTrue trivial
  | v :: rest => match decideCanonical v, decideCanonicalItems rest with
    | isTrue hv, isTrue hr => isTrue ⟨hv, hr⟩
    | isFalse hv, _ => isFalse fun h => hv h.1
    | _, isFalse hr => isFalse fun h => hr h.2

/-- Decides whether every member is in order. -/
def decideCanonicalMembers :
    (members : List (String × Json)) → Decidable (CanonicalMembers members)
  | [] => isTrue trivial
  | (_, v) :: rest => match decideCanonical v, decideCanonicalMembers rest with
    | isTrue hv, isTrue hr => isTrue ⟨hv, hr⟩
    | isFalse hv, _ => isFalse fun h => hv h.1
    | _, isFalse hr => isFalse fun h => hr h.2

end

instance : DecidablePred Canonical := decideCanonical

theorem canonical_array {items : List Json} :
    Canonical (.array items) ↔ ∀ v ∈ items, v.Canonical := by
  rw [Canonical]
  induction items with
  | nil => simp [CanonicalItems]
  | cons v rest ih => simp [CanonicalItems, ih]

theorem canonical_object {members : List (String × Json)} :
    Canonical (.object members) ↔
      Table.Sorted members ∧ ∀ name v, (name, v) ∈ members → v.Canonical := by
  rw [Canonical]
  refine and_congr_right' ?_
  induction members with
  | nil => simp [CanonicalMembers]
  | cons e rest ih =>
    obtain ⟨key, w⟩ := e
    simp only [CanonicalMembers, ih, List.mem_cons, Prod.mk.injEq]
    constructor
    · rintro ⟨hw, hrest⟩ name v (⟨-, rfl⟩ | hv)
      · exact hw
      · exact hrest name v hv
    · exact fun h => ⟨h key w (.inl ⟨rfl, rfl⟩), fun name v hv => h name v (.inr hv)⟩

theorem Canonical.member {members : List (String × Json)} (h : Canonical (.object members))
    {name : String} {v : Json} (hv : Table.get? name members = some v) : v.Canonical :=
  (canonical_object.mp h).2 name v (Table.mem_of_get? hv)

/-! ## Values and the documents they are written onto -/

section Values

variable {α : Type} {decode : Json → Option α} {encode : α → Json} {a : α}

/-- The value is read from some document. -/
def Readable (decode : Json → Option α) (a : α) : Prop :=
  ∃ v : Json, v.Canonical ∧ decode v = some a

/-- The value was read from this document, or from another one while this one has nothing to
keep. -/
def Fits (decode : Json → Option α) (target : Json) (a : α) : Prop :=
  (target.Canonical ∧ decode target = some a) ∨ (target.mergeable = [] ∧ Readable decode a)

/-- A value that may be missing fits: where it is missing, the document is null. -/
def Optionally (fits : Json → α → Prop) (target : Json) : Option α → Prop
  | none => target = .null
  | some a => fits target a

/-- The same of a value that may be missing. -/
abbrev OptionalFits (decode : Json → Option α) : Json → Option α → Prop :=
  Optionally (Fits decode)

theorem Optionally.mono {fits weaker : Json → α → Prop} {target : Json}
    (h : ∀ a, fits target a → weaker target a) {a : Option α} (ha : Optionally fits target a) :
    Optionally weaker target a := by
  cases a with
  | none => exact ha
  | some a => exact h a ha

/-- A value or none fits null, where any value does. -/
theorem optionally_null {fits : Json → α → Prop} (h : ∀ a, fits .null a) (a : Option α) :
    Optionally fits .null a := by
  cases a with
  | none => rfl
  | some a => exact h a

theorem Fits.readable {target : Json} (h : Fits decode target a) : Readable decode a :=
  h.elim (fun h => ⟨target, h⟩) And.right

theorem Readable.fits_null (h : Readable decode a) : Fits decode .null a := .inr ⟨rfl, h⟩

/-- A value that fits a document is read back from what it makes of the document. -/
structure Persistent (decode : Json → Option α) (encode : α → Json) : Prop where
  written : ∀ a, encode a ≠ .null
  kept : ∀ {target a}, Fits decode target a → decode (target.merge (encode a)) = some a

/-- A required member is read back where its value is. -/
theorem required_merge {old : Option Json} (hw : encode a ≠ .null) {b : α} :
    requiredField decode (mergeField old (some (encode a))) = some b ↔
      decode ((old.getD .null).merge (encode a)) = some b := by
  rw [mergeField_some hw]
  rfl

/-- A member that may be missing is read back where its value is. -/
theorem Optionally.read_back {fits : Json → α → Prop} (hw : ∀ a, encode a ≠ .null)
    (hk : ∀ target a, fits target a → decode (target.merge (encode a)) = some a)
    {old : Option Json} {a : Option α} (hf : Optionally fits (old.getD .null) a) :
    optionalField decode (mergeField old (a.map encode)) = some a := by
  cases a with
  | none =>
    rw [Option.map_none, mergeField_none, optionalField_eq_some_none]
    cases old with
    | none => exact .inl rfl
    | some v => exact .inr (congrArg some hf)
  | some a =>
    rw [Option.map_some, mergeField_some (hw a), optionalField_eq_some_some]
    exact ⟨_, rfl, merge_ne_null _ (hw a), hk _ a hf⟩

namespace Persistent

theorem required (h : Persistent decode encode) {old : Option Json}
    (hf : Fits decode (old.getD .null) a) :
    requiredField decode (mergeField old (some (encode a))) = some a :=
  (required_merge (h.written a)).mpr (h.kept hf)

theorem defaulted (h : Persistent decode encode) (value : α) {old : Option Json}
    (hf : Fits decode (old.getD .null) a) :
    defaultedField value decode (mergeField old (some (encode a))) = some a := by
  rw [mergeField_some (h.written a)]
  exact h.kept hf

theorem optional (h : Persistent decode encode) {old : Option Json} {a : Option α}
    (hf : OptionalFits decode (old.getD .null) a) :
    optionalField decode (mergeField old (a.map encode)) = some a :=
  hf.read_back h.written fun _ _ => h.kept

/-- A value that is written as neither an object nor null takes the place of what was there. -/
theorem of_replaced (hw : ∀ a, encode a ≠ .null)
    (hm : ∀ a (target : Json), target.merge (encode a) = encode a)
    (hd : ∀ a, Readable decode a → decode (encode a) = some a) : Persistent decode encode where
  written := hw
  kept h := by
    rw [hm]
    exact hd _ h.readable

end Persistent

end Values

/-! ## Plain values -/

section Plain

variable {α : Type} {decode : Json → Option α} {target : Json}

/-- Only documents without members are read. -/
def Plain (decode : Json → Option α) : Prop :=
  ∀ v a, decode v = some a → v.mergeable = []

/-- A plain value leaves nothing to keep, so another one may take its place. -/
theorem Fits.taken (hp : Plain decode) {a b : α} (h : Fits decode target a)
    (hb : Readable decode b) : Fits decode target b := by
  rcases h with ⟨-, hd⟩ | ⟨hm, -⟩
  · exact .inr ⟨hp target a hd, hb⟩
  · exact .inr ⟨hm, hb⟩

/-- The same of a value that may be missing, which another one may replace or not. -/
theorem OptionalFits.taken (hp : Plain decode) {before after : Option α}
    (h : OptionalFits decode target before)
    (ha : after = before ∨ ∃ a, after = some a ∧ Readable decode a) :
    OptionalFits decode target after := by
  rcases ha with rfl | ⟨b, rfl, hb⟩
  · exact h
  · cases before with
    | none =>
      rw [h]
      exact hb.fits_null
    | some a => exact Fits.taken hp h hb

end Plain

theorem plain_text : Plain text := fun v s h => by
  rw [text_eq_some.mp h]
  rfl

theorem readable_text (s : String) : Readable text s := ⟨.string s, trivial, rfl⟩

theorem persistent_text : Persistent text .string :=
  .of_replaced (fun _ h => by cases h) (fun _ _ => rfl) fun _ _ => rfl

/-- A text may take the place of another one, and of a missing one. -/
theorem text_fits_taken {target : Json} {before after : Option String}
    (h : OptionalFits text target before) (ha : after = before ∨ after.isSome) :
    OptionalFits text target after := by
  refine h.taken plain_text (ha.imp_right fun ha => ?_)
  obtain ⟨s, rfl⟩ := Option.isSome_iff_exists.mp ha
  exact ⟨s, rfl, readable_text s⟩

theorem readable_flag (b : Bool) : Readable flag b := ⟨.bool b, trivial, rfl⟩

theorem persistent_flag : Persistent flag .bool := by
  refine .of_replaced (fun b h => ?_) (fun _ _ => rfl) fun _ _ => rfl
  cases h

theorem plain_int64 : Plain int64 := by
  rintro (_ | _ | n | _ | _ | _) a h <;> first | rfl | cases h

theorem readable_zero : Readable int64 0 := ⟨ofInt 0, trivial, rfl⟩

theorem persistent_int64 : Persistent int64 ofInt :=
  .of_replaced (fun _ => nofun) (fun _ _ => rfl) fun i ⟨v, _, h⟩ => by
    unfold int64 integer at h ⊢
    split at h
    · split at h
      · next hi => cases h; exact if_pos hi
      · cases h
    · cases h

/-- A name out of a finite choice is written as text. -/
theorem persistent_choice {α : Type} {named : String → Option α} {name : α → String}
    (h : ∀ a, named (name a) = some a) : Persistent (choice named) fun a => .string (name a) :=
  .of_replaced (fun _ => nofun) (fun _ _ => rfl) fun a _ => h a

@[simp] theorem canonical_ofStrings (xs : List String) : (ofStrings xs).Canonical :=
  canonical_array.mpr fun v hv => by
    obtain ⟨s, -, rfl⟩ := List.mem_map.mp hv
    trivial

theorem readable_textList (xs : List String) : Readable (list text) xs :=
  ⟨ofStrings xs, canonical_ofStrings xs, list_text_eq_some.mpr rfl⟩

theorem persistent_textList : Persistent (list text) ofStrings :=
  .of_replaced (fun _ => nofun) (fun _ _ => rfl) fun _ _ => list_text_eq_some.mpr rfl

/-! ## Tables of text -/

@[simp] theorem canonical_ofTexts {t : Table String} : (ofTexts t).Canonical ↔ Table.Sorted t := by
  rw [ofTexts, canonical_object, Table.sorted_mapValues, and_iff_left_iff_imp]
  intro _ name v hv
  obtain ⟨e, -, he⟩ := List.mem_map.mp hv
  cases he
  trivial

theorem readable_texts {t : Table String} : Readable (table text) t ↔ Table.Sorted t := by
  constructor
  · rintro ⟨v, hc, hv⟩
    rw [table_text_eq_some.mp hv] at hc
    exact canonical_ofTexts.mp hc
  · exact fun h => ⟨ofTexts t, canonical_ofTexts.mpr h, table_text_eq_some.mpr rfl⟩

theorem readable_no_texts : Readable (table text) [] := readable_texts.mpr List.Pairwise.nil

/-- Written onto members that it has too, a table of text is all that is left. -/
theorem merge_ofTexts {target : Json} {t : Table String} (hs : Table.Sorted t)
    (ht : Table.Sorted target.mergeable)
    (hm : ∀ key, Table.get? key t = none → Table.get? key target.mergeable = none) :
    target.merge (ofTexts t) = ofTexts t := by
  rw [ofTexts, merge_object]
  have hn : (Table.keys (Table.mapValues string t)).Nodup := by simpa using hs.nodup_keys
  refine congrArg Json.object (Table.ext (sorted_mergeMembers ht _)
    (Table.sorted_mapValues.mpr hs) fun key => ?_)
  rw [get?_mergeMembers hn, Table.get?_mapValues]
  cases hk : Table.get? key t with
  | some s => rfl
  | none => exact hm key hk

/-- A table fits only members that are in order and that it has too. -/
theorem Fits.texts {target : Json} {t : Table String} (h : Fits (table text) target t) :
    Table.Sorted t ∧ Table.Sorted target.mergeable ∧
      ∀ key, Table.get? key t = none → Table.get? key target.mergeable = none := by
  have hs := readable_texts.mp h.readable
  refine ⟨hs, ?_⟩
  rcases h with ⟨-, hd⟩ | ⟨hd, -⟩
  · rw [table_text_eq_some.mp hd]
    refine ⟨Table.sorted_mapValues.mpr hs, fun key hk => ?_⟩
    simp [ofTexts, mergeable, hk]
  · rw [hd]
    exact ⟨List.Pairwise.nil, fun _ _ => rfl⟩

/-- A table of text fits the table that it was read from, and an empty place. -/
theorem persistent_texts : Persistent (table text) ofTexts where
  written _ := nofun
  kept h := by
    obtain ⟨hs, ht, hm⟩ := h.texts
    rw [table_text_eq_some, merge_ofTexts hs ht hm]

/-- One more entry in a table that fits is read back with the others. -/
theorem Fits.insert_texts {target : Json} {t : Table String} (h : Fits (table text) target t)
    (name value : String) :
    table text (target.merge (ofTexts (Table.insert name value t))) =
      some (Table.insert name value t) := by
  obtain ⟨hs, ht, hm⟩ := h.texts
  refine table_text_eq_some.mpr (merge_ofTexts (hs.insert name value) ht fun key hk => ?_)
  rw [Table.get?_insert] at hk
  split at hk
  · cases hk
  · exact hm key hk

/-! ## Records -/

/-- What is left to read is in order. -/
def Fields.Canonical : Fields Json → Prop
  | .named members => Json.Canonical (.object members)
  | .placed items => ∀ v ∈ items, v.Canonical

/-- A record is read from the members that it is written onto, or these are none. -/
def Origin (target : List (String × Json)) (fields : Fields Json) : Prop :=
  fields.Canonical ∧ (target = [] ∨ fields = .named target)

namespace Reader

variable {α β : Type} {name : String} {decode : Json → Option α} {target : List (String × Json)}

/-- What the reader yields fits the members that it is written onto. -/
def Fits (target : List (String × Json)) (fits : α → Prop) (reader : Reader Json α) : Prop :=
  ∀ fields a rest, Origin target fields → reader fields = some (a, rest) →
    fits a ∧ Origin target rest

/-- The member that a field is written onto. -/
abbrev slot (name : String) (target : List (String × Json)) : Json :=
  (Table.get? name target).getD .null

theorem fits_pure {fits : α → Prop} {a : α} (h : fits a) :
    (pure a : Reader Json α).Fits target fits := by
  rintro fields b rest ho hr
  cases hr
  exact ⟨h, ho⟩

theorem fits_bind {first : α → Prop} {second : β → Prop} {reader : Reader Json α} {f : α → Reader Json β}
    (hr : reader.Fits target first) (hf : ∀ a, first a → (f a).Fits target second) :
    (reader >>= f).Fits target second := by
  intro fields b rest ho h
  obtain ⟨⟨a, middle⟩, ha, hb⟩ := Option.bind_eq_some_iff.mp h
  obtain ⟨hfirst, hm⟩ := hr fields a middle ho ha
  exact hf a hfirst middle b rest hm hb

/-- A value read from the origin of a record fits the member of the target. -/
theorem fits_slot {members : List (String × Json)} (ho : Origin target (.named members)) {v : Json}
    (hv : Table.get? name members = some v) {a : α} (hd : decode v = some a) :
    Json.Fits decode (slot name target) a := by
  obtain ⟨hc, rfl | ht⟩ := ho
  · exact .inr ⟨rfl, v, hc.member hv, hd⟩
  · cases ht
    rw [slot, hv]
    exact .inl ⟨hc.member hv, hd⟩

/-- The same of a value read from a place. -/
theorem fits_slot_placed {v : Json} {items : List Json} (ho : Origin target (.placed (v :: items)))
    {a : α} (hd : decode v = some a) :
    Json.Fits decode (slot name target) a ∧ Origin target (.placed items) := by
  obtain ⟨hc, rfl | ht⟩ := ho
  · exact ⟨.inr ⟨rfl, v, hc v List.mem_cons_self, hd⟩,
      fun w hw => hc w (List.mem_cons_of_mem v hw), .inl rfl⟩
  · cases ht

theorem fits_required :
    (required name decode).Fits target (Json.Fits decode (slot name target)) := by
  rintro (members | _ | ⟨v, items⟩) a rest ho h
  · rw [required_named] at h
    obtain ⟨b, hb, e⟩ := Option.map_eq_some_iff.mp h
    cases e
    obtain ⟨v, hv, hd⟩ := requiredField_eq_some.mp hb
    exact ⟨fits_slot ho hv hd, ho⟩
  · cases h
  · obtain ⟨b, hb, e⟩ := Option.bind_eq_some_iff.mp h
    cases e
    exact fits_slot_placed ho hb

theorem fits_defaulted {value : α} (hd : Readable decode value) :
    (defaulted name value decode).Fits target (Json.Fits decode (slot name target)) := by
  rintro (members | _ | ⟨v, items⟩) a rest ho h
  · rw [defaulted_named] at h
    obtain ⟨b, hb, e⟩ := Option.map_eq_some_iff.mp h
    cases e
    refine ⟨?_, ho⟩
    cases hv : Table.get? name members with
    | none =>
      rw [hv] at hb
      cases hb
      obtain ⟨-, rfl | ht⟩ := ho
      · exact hd.fits_null
      · cases ht
        rw [slot, hv]
        exact hd.fits_null
    | some v =>
      rw [hv] at hb
      exact fits_slot ho hv hb
  · cases h
    obtain ⟨hc, rfl | ht⟩ := ho
    · exact ⟨hd.fits_null, hc, .inl rfl⟩
    · cases ht
  · obtain ⟨b, hb, e⟩ := Option.bind_eq_some_iff.mp h
    cases e
    exact fits_slot_placed ho hb

theorem fits_optional :
    (optional name decode).Fits target (OptionalFits decode (slot name target)) := by
  rintro (members | _ | ⟨v, items⟩) a rest ho h
  · rw [optional_named] at h
    obtain ⟨b, hb, e⟩ := Option.map_eq_some_iff.mp h
    cases e
    refine ⟨?_, ho⟩
    cases a with
    | none =>
      obtain ⟨-, rfl | ht⟩ := ho
      · rfl
      · cases ht
        rcases optionalField_eq_some_none.mp hb with hv | hv <;>
        · rw [OptionalFits, Optionally, slot, hv]
          rfl
    | some a =>
      obtain ⟨v, hv, -, hd⟩ := optionalField_eq_some_some.mp hb
      exact fits_slot ho hv hd
  · cases h
  · obtain ⟨b, hb, e⟩ := Option.map_eq_some_iff.mp h
    cases e
    cases a with
    | none =>
      obtain ⟨hc, rfl | ht⟩ := ho
      · exact ⟨rfl, fun w hw => hc w (List.mem_cons_of_mem v hw), .inl rfl⟩
      · cases ht
    | some a =>
      refine fits_slot_placed ho ?_
      by_cases hv : v = .null
      · subst hv
        cases hb
      · rw [nullable_of_ne_null hv] at hb
        obtain ⟨b, hd, e⟩ := Option.map_eq_some_iff.mp hb
        cases e
        exact hd

/-- Reads a value from any document but null. -/
def given (decode : Json → Option α) : Json → Option α
  | .null => none
  | v => decode v

theorem nullable_eq_some {v : Json} {a : Option α} :
    nullable decode v = some a ↔
      (v = .null ∧ a = none) ∨ ∃ b, given decode v = some b ∧ some b = a := by
  cases v <;> simp [nullable, given, @eq_comm _ none a]

/-- A field that may be missing altogether fits like one that may be null. -/
theorem fits_lastOptional :
    (lastOptional name decode).Fits target (OptionalFits (given decode) (slot name target)) := by
  have read : ∀ {v : Json} {a : Option α}, nullable decode v = some a →
      (∀ b, given decode v = some b → Json.Fits (given decode) (slot name target) b) →
      (v = .null → slot name target = .null) →
      OptionalFits (given decode) (slot name target) a := by
    intro v a hv hsome hnone
    rcases nullable_eq_some.mp hv with ⟨hn, rfl⟩ | ⟨b, hb, rfl⟩
    · exact hnone hn
    · exact hsome b hb
  rintro (members | _ | ⟨v, items⟩) a rest ho h
  · rw [lastOptional, defaulted_named] at h
    obtain ⟨b, hb, e⟩ := Option.map_eq_some_iff.mp h
    cases e
    refine ⟨?_, ho⟩
    cases hv : Table.get? name members with
    | none =>
      rw [hv] at hb
      cases hb
      obtain ⟨-, rfl | ht⟩ := ho
      · rfl
      · cases ht
        rw [OptionalFits, Optionally, slot, hv]
        rfl
    | some v =>
      rw [hv] at hb
      refine read hb (fun b hd => fits_slot ho hv hd) fun hn => ?_
      obtain ⟨-, rfl | ht⟩ := ho
      · rfl
      · cases ht
        rw [slot, hv, hn]
        rfl
  · cases h
    obtain ⟨hc, rfl | ht⟩ := ho
    · exact ⟨rfl, hc, .inl rfl⟩
    · cases ht
  · obtain ⟨b, hb, e⟩ := Option.bind_eq_some_iff.mp h
    cases e
    obtain ⟨hc, rfl | ht⟩ := ho
    · exact ⟨read hb (fun b hd => (fits_slot_placed ⟨hc, .inl rfl⟩ hd).1) fun _ => rfl,
        fun w hw => hc w (List.mem_cons_of_mem v hw), .inl rfl⟩
    · cases ht

/-- What a record reads fits the members of the document that the record fits. -/
theorem fits_of_read (fits : α → Prop) {reader : Reader Json α} {v : Json} {a : α}
    (h : Json.Fits (read reader) v a) (hr : reader.Fits v.mergeable fits) : fits a := by
  have key : ∀ w : Json, w.Canonical → read reader w = some a → (v.mergeable = [] ∨ w = v) →
      fits a := by
    intro w hc hw ht
    cases w with
    | object members =>
      obtain ⟨⟨b, rest⟩, hb, e⟩ := Option.map_eq_some_iff.mp hw
      cases e
      refine (hr (.named members) _ rest ⟨hc, ht.imp_right fun e => ?_⟩ hb).1
      rw [← e]
      rfl
    | array items =>
      rw [read_array] at hw
      refine (hr (.placed items) a _ ⟨canonical_array.mp hc, .inl ?_⟩ hw).1
      rcases ht with ht | rfl
      · exact ht
      · rfl
    | _ => cases hw
  rcases h with ⟨hc, hd⟩ | ⟨hm, w, hc, hd⟩
  · exact key v hc hd (.inr rfl)
  · exact key w hc hd (.inl hm)

/-- The same of a record that is read from objects only. -/
theorem fits_of_readObject (fits : α → Prop) {reader : Reader Json α} {v : Json} {a : α}
    (h : Json.Fits (readObject reader) v a) (hr : reader.Fits v.mergeable fits) : fits a := by
  refine fits_of_read fits ?_ hr
  have hread : ∀ w, readObject reader w = some a → read reader w = some a := by
    intro w hw
    cases w with
    | object members => exact hw
    | _ => cases hw
  rcases h with ⟨hc, hd⟩ | ⟨hm, w, hc, hd⟩
  · exact .inl ⟨hc, hread v hd⟩
  · exact .inr ⟨hm, w, hc, hread w hd⟩

end Reader

end ResourceOperator.Json
