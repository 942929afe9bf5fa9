import ResourceOperator.Json.Draft
import ResourceOperator.Proofs.Json.Codec

/-!
# Documents and their drafts

A text that says no more than a document is read as that document: `ofJson` is what such a text
says. It settles to the document again, and readers that are written for both read the same from the
one as from the other (`Alike`), field by field.

A text may say more. A record is read from the members of its names (`Reader.Names`): members of
other names are skipped, whatever they hold, and one of its names must not be repeated.

Results:
* `settle_ofJson`, `canonical_settle`: what drafts settle to.
* `member?_eq_none_iff`: a member is refused where its name is repeated, and only there.
* `record_read`: what is true of a record (`Record`) by what is true of its fields, with one lemma
  for each way to read a value or a field.
-/

namespace ResourceOperator.Json

namespace Draft

/-! ## What drafts settle to -/

mutual

/-- What a text says that says no more than a document. -/
def ofJson : Json → Draft
  | .null => .null
  | .bool b => .bool b
  | .number n => .number n
  | .string s => .string s
  | .array items => .array (ofItems items)
  | .object members => .object (ofMembers members)

/-- The same of every item. -/
def ofItems : List Json → List Draft
  | [] => []
  | v :: rest => ofJson v :: ofItems rest

/-- The same of every member. -/
def ofMembers : List (String × Json) → List (String × Draft)
  | [] => []
  | (name, v) :: rest => (name, ofJson v) :: ofMembers rest

end

theorem ofMembers_eq_mapValues (members : List (String × Json)) :
    ofMembers members = Table.mapValues ofJson members := by
  induction members with
  | nil => rfl
  | cons e rest ih =>
    obtain ⟨name, v⟩ := e
    rw [ofMembers, ih]
    rfl

mutual

/-- The draft of a document in order settles to the document. -/
theorem settle_ofJson : (v : Json) → v.Canonical → settle (ofJson v) = some v
  | .null, _ => rfl
  | .bool _, _ => rfl
  | .number _, _ => rfl
  | .string _, _ => rfl
  | .array items, h => by
    rw [ofJson, settle, settleItems_ofItems items h]
    rfl
  | .object members, h => by
    rw [ofJson, settle, settleMembers_ofMembers members h.2, Option.map_some, Json.ofMembers,
      Table.ofList_of_sorted h.1]

theorem settleItems_ofItems : (items : List Json) → CanonicalItems items →
    settleItems (ofItems items) = some items
  | [], _ => rfl
  | v :: rest, h => by
    rw [ofItems, settleItems, settle_ofJson v h.1, settleItems_ofItems rest h.2]
    rfl

theorem settleMembers_ofMembers : (members : List (String × Json)) → CanonicalMembers members →
    settleMembers (ofMembers members) = some members
  | [], _ => rfl
  | (name, v) :: rest, h => by
    rw [ofMembers, settleMembers, settle_ofJson v h.1, settleMembers_ofMembers rest h.2]
    rfl

end

mutual

/-- What a draft settles to is in order. -/
theorem canonical_settle : (d : Draft) → (v : Json) → settle d = some v → v.Canonical
  | .null, _, h | .bool _, _, h | .number _, _, h | .string _, _, h => by
    cases h
    exact trivial
  | .array items, v, h => by
    obtain ⟨vs, hvs, rfl⟩ := Option.map_eq_some_iff.mp h
    exact canonical_array.mpr (canonical_settleItems items vs hvs)
  | .object members, v, h => by
    obtain ⟨vs, hvs, rfl⟩ := Option.map_eq_some_iff.mp h
    exact canonical_object.mpr ⟨Table.sorted_ofList vs, fun name w hw =>
      canonical_settleMembers members vs hvs (name, w) (Table.mem_of_mem_ofList hw)⟩
  | .unreadable, _, h => by cases h

theorem canonical_settleItems : (items : List Draft) → (vs : List Json) →
    settleItems items = some vs → ∀ v ∈ vs, v.Canonical
  | [], vs, h => by
    cases h
    exact fun _ hv => absurd hv List.not_mem_nil
  | d :: rest, vs, h => by
    obtain ⟨w, hw, h⟩ := Option.bind_eq_some_iff.mp h
    obtain ⟨ws, hws, h⟩ := Option.bind_eq_some_iff.mp h
    cases h
    exact List.forall_mem_cons.mpr ⟨canonical_settle d w hw, canonical_settleItems rest ws hws⟩

theorem canonical_settleMembers : (members : List (String × Draft)) → (vs : List (String × Json)) →
    settleMembers members = some vs → ∀ e ∈ vs, e.2.Canonical
  | [], vs, h => by
    cases h
    exact fun _ hv => absurd hv List.not_mem_nil
  | (name, d) :: rest, vs, h => by
    obtain ⟨w, hw, h⟩ := Option.bind_eq_some_iff.mp h
    obtain ⟨ws, hws, h⟩ := Option.bind_eq_some_iff.mp h
    cases h
    exact List.forall_mem_cons.mpr ⟨canonical_settle d w hw, canonical_settleMembers rest ws hws⟩

end

theorem settleItems_eq_mapM (items : List Draft) : settleItems items = items.mapM settle := by
  induction items with
  | nil => rfl
  | cons d rest ih =>
    rw [settleItems, List.mapM_cons, ih]
    rfl

/-- So are the items of a list of documents. -/
theorem canonical_of_list {d : Draft} {vs : List Json} (h : list any d = some vs) :
    ∀ v ∈ vs, v.Canonical := by
  cases d with
  | array items => exact canonical_settleItems items vs ((settleItems_eq_mapM items).trans h)
  | _ => cases h

/-- Only null settles to null. -/
theorem settle_ne_null {d : Draft} (h : d ≠ .null) : settle d ≠ some .null := by
  cases d with
  | null => exact absurd rfl h
  | array items => exact fun e => nomatch (Option.map_eq_some_iff.mp e).choose_spec.2
  | object members => exact fun e => nomatch (Option.map_eq_some_iff.mp e).choose_spec.2
  | _ => nofun

theorem nullable_of_ne_null {α : Type} {decode : Draft → Option α} {d : Draft} (h : d ≠ .null) :
    Reader.nullable decode d = (decode d).map some := by
  cases d with
  | null => exact absurd rfl h
  | _ => rfl

/-! ## The members of a draft -/

variable {name : String} {members : List (String × Draft)}

/-- The name occurs more than once. -/
def Repeated (name : String) (members : List (String × Draft)) : Prop :=
  1 < (members.filter (·.1 = name)).length

/-- A member is refused where its name is repeated, and only there. -/
theorem member?_eq_none_iff : member? name members = none ↔ Repeated name members := by
  unfold member? Repeated
  split
  case h_1 h => simp [h]
  case h_2 h => simp [h]
  case h_3 hnil hone =>
    cases h : members.filter (·.1 = name) with
    | nil => exact absurd h hnil
    | cons e rest =>
      cases rest with
      | nil => exact absurd h (hone e)
      | cons d rest => simp

/-- Where no name is repeated, a member is found as in a table. -/
theorem member?_of_nodup (h : (Table.keys members).Nodup) :
    member? name members = some (Table.get? name members) := by
  rw [member?, Table.filter_key h]
  cases Table.get? name members <;> rfl

theorem member?_ofMembers {members : List (String × Json)} (h : Table.Sorted members) :
    member? name (ofMembers members) = some ((Table.get? name members).map ofJson) := by
  have hkeys : Table.keys (ofMembers members) = Table.keys members := by
    rw [ofMembers_eq_mapValues, Table.keys_mapValues]
  rw [member?_of_nodup (hkeys ▸ h.nodup_keys), ofMembers_eq_mapValues, Table.get?_mapValues]

/-- A member of another name does not count. -/
theorem member?_insert {other : String} (h : other ≠ name) (before after : List (String × Draft))
    (d : Draft) : member? name (before ++ (other, d) :: after) = member? name (before ++ after) := by
  simp [member?, h]

end Draft

open Draft Reader

variable {α β : Type}

/-! ## Reading a document and its draft -/

/-- Both read the same from every document in order. -/
def Alike (draft : Draft → Option α) (plain : Json → Option α) : Prop :=
  ∀ v, v.Canonical → draft (ofJson v) = plain v

section Values

variable {draft : Draft → Option α} {plain : Json → Option α}

theorem alike_text : Alike text text := by
  intro v _
  cases v <;> rfl

theorem alike_flag : Alike flag flag := by
  intro v _
  cases v <;> rfl

theorem alike_int64 : Alike int64 int64 := by
  intro v _
  cases v with
  | number n => cases n <;> rfl
  | _ => rfl

theorem alike_any : Alike any any := settle_ofJson

theorem alike_choice (named : String → Option α) : Alike (choice named) (choice named) := by
  intro v _
  cases v with
  | object members =>
    match members with
    | [] => rfl
    | [(name, v)] => cases v <;> rfl
    | _ :: _ :: _ => rfl
  | _ => rfl

theorem alike_list (h : Alike draft plain) : Alike (list draft) (list plain) := by
  intro v hc
  cases v with
  | array items =>
    show (Draft.ofItems items).mapM draft = items.mapM plain
    rw [Canonical] at hc
    induction items with
    | nil => rfl
    | cons v rest ih =>
      rw [Draft.ofItems, List.mapM_cons, List.mapM_cons, h v hc.1, ih hc.2]
  | _ => rfl

theorem alike_nullable (h : Alike draft plain) :
    Alike (Reader.nullable draft) (Reader.nullable plain) := by
  intro v hc
  cases v with
  | null => rfl
  | _ => exact congrArg (Option.map some) (h _ hc)

end Values

/-- The draft of what is left to read. -/
def Fields.draft : Fields Json → Fields Draft
  | .named members => .named (Draft.ofMembers members)
  | .placed items => .placed (Draft.ofItems items)

namespace Reader

/-- Both read the same from every record in order, and leave the same. -/
def Alike (draft : Reader Draft α) (plain : Reader Json α) : Prop :=
  ∀ fields : Fields Json, fields.Canonical →
    draft fields.draft = (plain fields).map (fun out => (out.1, out.2.draft)) ∧
    ∀ a rest, plain fields = some (a, rest) → rest.Canonical

section Fields

variable {name : String} {draft : Draft → Option α} {plain : Json → Option α}

theorem alike_lift (a : Option α) : Reader.Alike (StateT.lift a) (StateT.lift a) := by
  intro fields hc
  cases a with
  | none => exact ⟨rfl, nofun⟩
  | some a =>
    refine ⟨rfl, fun b rest h => ?_⟩
    cases h
    exact hc

theorem alike_pure (a : α) : Reader.Alike (pure a) (pure a) :=
  alike_lift (some a)

theorem alike_bind {first : Reader Draft α} {first' : Reader Json α} {f : α → Reader Draft β}
    {f' : α → Reader Json β} (hr : Reader.Alike first first') (hf : ∀ a, Reader.Alike (f a) (f' a)) :
    Reader.Alike (first >>= f) (first' >>= f') := by
  intro fields hc
  obtain ⟨hrun, hrest⟩ := hr fields hc
  rw [bind_apply, bind_apply, hrun, Option.bind_map]
  cases h : first' fields with
  | none => exact ⟨rfl, nofun⟩
  | some out => exact hf out.1 out.2 (hrest out.1 out.2 h)

/-- The next field of a draft is the draft of the next field. -/
theorem next_draft {fields : Fields Json} (hc : fields.Canonical) :
    next name fields.draft =
      (next name fields).map fun out => (out.1.map ofJson, out.2.draft) := by
  rcases fields with members | _ | ⟨v, items⟩
  · show (Draft.member? name (Draft.ofMembers members)).map _ = _
    rw [member?_ofMembers (canonical_object.mp hc).1]
    rfl
  · rfl
  · rfl

theorem canonical_next {fields rest : Fields Json} {v : Option Json} (hc : fields.Canonical)
    (h : next name fields = some (v, rest)) : (∀ w, v = some w → w.Canonical) ∧ rest.Canonical := by
  rcases fields with members | _ | ⟨v, items⟩
  · cases h
    exact ⟨fun w hw => Canonical.member hc hw, hc⟩
  · cases h
    exact ⟨nofun, hc⟩
  · cases h
    obtain ⟨hv, hrest⟩ := List.forall_mem_cons.mp hc
    refine ⟨fun w hw => ?_, hrest⟩
    cases hw
    exact hv

/-- What is made of the next field, which may be missing. -/
theorem alike_next {f : Option Draft → Reader Draft α} {f' : Option Json → Reader Json α}
    (hnone : Reader.Alike (f none) (f' none))
    (hsome : ∀ v, v.Canonical → Reader.Alike (f (some (ofJson v))) (f' (some v))) :
    Reader.Alike (next name >>= f) (next name >>= f') := by
  intro fields hc
  rw [bind_apply, bind_apply, next_draft hc, Option.bind_map]
  cases h : next name fields with
  | none => exact ⟨rfl, nofun⟩
  | some out =>
    obtain ⟨v, rest⟩ := out
    obtain ⟨hv, hrest⟩ := canonical_next hc h
    cases v with
    | none => exact hnone rest hrest
    | some v => exact hsome v (hv v rfl) rest hrest

theorem alike_taken (h : Json.Alike draft plain) (v : Json) (hv : v.Canonical) :
    Reader.Alike (StateT.lift (draft (ofJson v))) (StateT.lift (plain v)) := by
  rw [h v hv]
  exact alike_lift (plain v)

theorem alike_required (h : Json.Alike draft plain) :
    Reader.Alike (required name draft) (required name plain) :=
  alike_next (alike_lift none) (alike_taken h)

theorem alike_defaulted (h : Json.Alike draft plain) (value : α) :
    Reader.Alike (defaulted name value draft) (defaulted name value plain) :=
  alike_next (alike_pure value) (alike_taken h)

end Fields

end Reader

/-- A record is read the same when its fields are. -/
theorem alike_read {draft : Reader Draft α} {plain : Reader Json α} (h : Reader.Alike draft plain) :
    Alike (Reader.read draft) (Reader.read plain) := by
  intro v hc
  cases v with
  | object members =>
    show (draft (Fields.named members).draft).map (·.1) = (plain (.named members)).map (·.1)
    rw [(h (.named members) hc).1, Option.map_map]
    rfl
  | array items =>
    have hrun : draft (.placed (ofItems items)) = _ := (h (.placed items) (canonical_array.mp hc)).1
    have hshape : Document.shape (ofJson (.array items)) = .array (ofItems items) := rfl
    rw [Reader.read, Reader.read, hshape, shape_array]
    dsimp only
    rw [hrun]
    rcases plain (.placed items) with _ | ⟨a, _ | _ | _⟩ <;> rfl
  | _ => rfl

/-! ## Members that are not read, and members that are repeated -/

namespace Reader

/-- The reader takes the members of these names out of an object, and no others. -/
structure Names (names : List String) (reader : Reader Draft α) : Prop where
  kept : ∀ {members a rest}, reader (.named members) = some (a, rest) → rest = .named members
  /-- A member of another name makes no difference, whatever it holds. -/
  skips : ∀ {other}, other ∉ names → ∀ before after d,
    (reader (.named (before ++ (other, d) :: after))).map (·.1) =
      (reader (.named (before ++ after))).map (·.1)
  refuses : ∀ {name}, name ∈ names → ∀ {members}, Repeated name members →
    reader (.named members) = none

section Fields

variable {name : String} {names first : List String} {decode : Draft → Option α}

theorem names_lift (a : Option α) : Names [] (StateT.lift a) where
  kept h := by
    cases a with
    | none => cases h
    | some a =>
      cases h
      rfl
  skips _ _ _ _ := by cases a <;> rfl
  refuses h := absurd h List.not_mem_nil

theorem names_next : Names [name] (next name) where
  kept h := by
    obtain ⟨v, -, e⟩ := Option.map_eq_some_iff.mp h
    cases e
    rfl
  skips h before after d := by
    show ((member? name _).map _).map _ = ((member? name _).map _).map _
    rw [member?_insert (List.ne_of_not_mem_cons h), Option.map_map, Option.map_map]
    rfl
  refuses h members hm := by
    obtain rfl := List.mem_singleton.mp h
    show (member? _ members).map _ = none
    rw [member?_eq_none_iff.mpr hm, Option.map_none]

theorem names_bind {reader : Reader Draft α} {f : α → Reader Draft β} (hr : Names first reader)
    (hf : ∀ a, Names names (f a)) : Names (first ++ names) (reader >>= f) where
  kept h := by
    obtain ⟨⟨a, rest⟩, ha, hb⟩ := Option.bind_eq_some_iff.mp h
    obtain rfl := hr.kept ha
    exact (hf a).kept hb
  skips {other} h before after d := by
    obtain ⟨hfirst, hnames⟩ := not_or.mp (mt List.mem_append.mpr h)
    have hskip := hr.skips hfirst before after d
    rw [bind_apply, bind_apply]
    cases h₁ : reader (.named (before ++ (other, d) :: after)) with
    | none =>
      rw [h₁, Option.map_none, eq_comm, Option.map_eq_none_iff] at hskip
      rw [hskip]
    | some out =>
      obtain ⟨a, rest⟩ := out
      obtain rfl := hr.kept h₁
      rw [h₁, Option.map_some, eq_comm, Option.map_eq_some_iff] at hskip
      obtain ⟨⟨b, rest⟩, h₂, rfl⟩ := hskip
      obtain rfl := hr.kept h₂
      rw [h₂]
      exact (hf b).skips hnames before after d
  refuses {name} h {members} hm := by
    rw [bind_apply]
    rcases List.mem_append.mp h with h | h
    · rw [hr.refuses h hm, Option.bind_none]
    · cases h₁ : reader (.named members) with
      | none => rfl
      | some out =>
        obtain ⟨a, rest⟩ := out
        obtain rfl := hr.kept h₁
        exact (hf a).refuses h hm

theorem names_required : Names [name] (required name decode) :=
  names_bind names_next fun
    | some d => names_lift (decode d)
    | none => names_lift none

theorem names_defaulted (value : α) : Names [name] (defaulted name value decode) :=
  names_bind names_next fun
    | some d => names_lift (decode d)
    | none => names_lift (some value)

end Fields

end Reader

/-! ## Records -/

/-- How a value is read from the members of these names, from a document and from its draft. -/
structure Record (names : List String) (draft : Draft → Option α) (plain : Json → Option α) :
    Prop where
  alike : Alike draft plain
  skips : ∀ {other}, other ∉ names → ∀ before after d,
    draft (.object (before ++ (other, d) :: after)) = draft (.object (before ++ after))
  refuses : ∀ {name}, name ∈ names → ∀ {members}, Repeated name members →
    draft (.object members) = none

/-- The same of what reads it. -/
structure Reader.Record (names : List String) (draft : Reader Draft α) (plain : Reader Json α) :
    Prop where
  alike : Reader.Alike draft plain
  names : Names names draft

section Records

variable {name : String} {names : List String}

theorem record_read {draft : Reader Draft α} {plain : Reader Json α}
    (h : Reader.Record names draft plain) :
    Record names (Reader.read draft) (Reader.read plain) where
  alike := alike_read h.alike
  skips := h.names.skips
  refuses hname _ hm := by
    show (draft (.named _)).map _ = none
    rw [h.names.refuses hname hm, Option.map_none]

theorem record_pure (a : α) : Reader.Record [] (pure a) (pure a) :=
  ⟨alike_pure a, names_lift (some a)⟩

/-- One field, and then the others. -/
theorem record_field {draft : Reader Draft α} {plain : Reader Json α} {f : α → Reader Draft β}
    {f' : α → Reader Json β} (h : Reader.Record [name] draft plain)
    (hf : ∀ a, Reader.Record names (f a) (f' a)) :
    Reader.Record (name :: names) (draft >>= f) (plain >>= f') :=
  ⟨alike_bind h.alike fun a => (hf a).alike, names_bind h.names fun a => (hf a).names⟩

variable {draft : Draft → Option α} {plain : Json → Option α}

theorem record_required (h : Alike draft plain) :
    Reader.Record [name] (required name draft) (required name plain) :=
  ⟨alike_required h, names_required⟩

theorem record_defaulted {value : α} (h : Alike draft plain) :
    Reader.Record [name] (defaulted name value draft) (defaulted name value plain) :=
  ⟨alike_defaulted h value, names_defaulted value⟩

theorem record_lastOptional (h : Alike draft plain) :
    Reader.Record [name] (lastOptional name draft) (lastOptional name plain) :=
  record_defaulted (alike_nullable h)

end Records

end ResourceOperator.Json
