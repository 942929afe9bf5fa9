import ResourceOperator.Json.Parser
import ResourceOperator.Json.Printer
import ResourceOperator.Proofs.Json.Draft

/-!
# Documents as text and back

What `Json.render` writes says no more than the document: for one without numbers that is not nested
too deep, `Draft.parse` reads its draft. Strings are arbitrary, so the escapes of every control
character are covered.

Results:
* `chars_escape`: an escaped text is read up to its closing quote.
* `value_render`: the text of a document is read and what follows it is left.
* `parse_render`: a document in order is read from its text.
* `readText_render`: so is a value, where documents and drafts are read alike.
-/

namespace ResourceOperator.Json

open ResourceOperator.Json.Parser

mutual

/-- The document has no numbers, and its arrays and objects nest at most this deep. -/
def Wordy : Nat → Json → Prop
  | depth + 1, .array items => WordyItems depth items
  | depth + 1, .object members => WordyMembers depth members
  | 0, .array _ | 0, .object _ | _, .number _ => False
  | _, .null | _, .bool _ | _, .string _ => True

/-- The same of every item. -/
def WordyItems (depth : Nat) : List Json → Prop
  | [] => True
  | v :: rest => Wordy depth v ∧ WordyItems depth rest

/-- The same of every member. -/
def WordyMembers (depth : Nat) : List (String × Json) → Prop
  | [] => True
  | (_, v) :: rest => Wordy depth v ∧ WordyMembers depth rest

end

/-! ## Strings -/

theorem hexValue_hexDigit : ∀ n < 16, hexValue (hexDigit n) = some n := by
  decide

/-- The escape of a control character is read as the character. -/
theorem escape_control {c : Char} (h : c.toNat < 32) (rest : List Char) :
    escape ('u' :: '0' :: '0' :: hexDigit (c.toNat / 16) :: hexDigit (c.toNat % 16) :: rest) =
      some (some c, rest) := by
  have hhigh := hexValue_hexDigit (c.toNat / 16) (by omega)
  have hlow := hexValue_hexDigit (c.toNat % 16) (by omega)
  have hzero : hexValue '0' = some 0 := by decide
  have hunit : hexUnit ('0' :: '0' :: hexDigit (c.toNat / 16) :: hexDigit (c.toNat % 16) :: rest) =
      some (c.toNat, rest) := by
    simp only [hexUnit, hzero, hhigh, hlow, Option.bind_eq_bind, Option.bind_some]
    congr
    omega
  rw [escape, hunit]
  have h1 : ¬ (0xD800 ≤ c.toNat ∧ c.toNat < 0xDC00) := by omega
  have h2 : ¬ (0xDC00 ≤ c.toNat ∧ c.toNat < 0xE000) := by omega
  simp [h1, h2]

/-- One character of a string is read back. -/
theorem chars_escapeChar (c : Char) (fuel : Nat) (acc rest : List Char) :
    chars (fuel + 1) (some acc) (escapeChar c ++ rest) = chars fuel (some (c :: acc)) rest := by
  unfold escapeChar
  split
  case h_8 hq hb _ _ _ _ _ =>
    split
    · next hc =>
      simp only [List.cons_append, List.nil_append, chars, escape_control hc, Option.bind_some,
        Option.map_some]
    · next hc =>
      rw [List.cons_append, List.nil_append, chars]
      · rw [if_neg hc, Option.map_some]
      · exact fun e => hq e
      · exact fun e => hb e
  all_goals simp [chars, escape]

/-- An escaped text is read up to its closing quote. -/
theorem chars_escape {cs : List Char} {fuel : Nat} (h : cs.length < fuel) (acc rest : List Char) :
    chars fuel (some acc) (cs.flatMap escapeChar ++ '"' :: rest) =
      some (some (String.ofList (acc.reverse ++ cs)), rest) := by
  induction cs generalizing fuel acc with
  | nil =>
    obtain ⟨fuel, rfl⟩ : ∃ n, fuel = n + 1 := ⟨fuel - 1, by simp at h; omega⟩
    simp [chars]
  | cons c cs ih =>
    obtain ⟨fuel, rfl⟩ : ∃ n, fuel = n + 1 := ⟨fuel - 1, by simp at h; omega⟩
    rw [List.flatMap_cons, List.append_assoc, chars_escapeChar, ih (by simpa using h)]
    simp

theorem length_le_escape (cs : List Char) : cs.length ≤ (cs.flatMap escapeChar).length := by
  induction cs with
  | nil => exact Nat.le_refl _
  | cons c cs ih =>
    have hc : 0 < (escapeChar c).length := by
      unfold escapeChar
      split <;> first | exact Nat.succ_pos _ | (split <;> exact Nat.succ_pos _)
    rw [List.flatMap_cons, List.length_append, List.length_cons]
    omega

/-- A quoted text is read up to its closing quote. -/
theorem chars_quote (s : String) :
    ∃ body, (quote s).toList = '"' :: body ∧
      ∀ rest, chars ((body ++ rest).length + 1) (some []) (body ++ rest) =
        some (some s, rest) := by
  refine ⟨s.toList.flatMap escapeChar ++ ['"'], by simp [quote], fun rest => ?_⟩
  have hlen := length_le_escape s.toList
  rw [List.append_assoc, List.singleton_append, chars_escape ?_]
  · simp
  · rw [List.length_append, List.length_cons]
    omega

/-! ## Documents -/

/-- The first character of a document: no blank, and no closing bracket. -/
abbrev Opens (c : Char) : Prop :=
  (c ≠ ' ' ∧ c ≠ '\n' ∧ c ≠ '\r' ∧ c ≠ '\t') ∧ c ≠ ']'

theorem skip_of_opens {c : Char} (h : Opens c) (cs : List Char) : skip (c :: cs) = c :: cs := by
  rw [skip, if_neg]
  rintro (e | e | e | e)
  · exact h.1.1 e
  · exact h.1.2.1 e
  · exact h.1.2.2.1 e
  · exact h.1.2.2.2 e

theorem toList_render_array (items : List Json) :
    (render (.array items)).toList = '[' :: ((renderItems items).toList ++ [']']) := by
  simp [render]

theorem toList_render_object (members : List (String × Json)) :
    (render (.object members)).toList = '\x7b' :: ((renderMembers members).toList ++ ['\x7d']) := by
  simp [render]

theorem render_opens {depth : Nat} {v : Json} (h : Wordy depth v) :
    ∃ c cs, (render v).toList = c :: cs ∧ Opens c := by
  cases v with
  | null => exact ⟨'n', _, rfl, by decide⟩
  | bool b =>
    cases b
    · exact ⟨'f', _, rfl, by decide⟩
    · exact ⟨'t', _, rfl, by decide⟩
  | number n => cases depth <;> exact h.elim
  | string s =>
    obtain ⟨body, hbody, -⟩ := chars_quote s
    exact ⟨'"', body, hbody, by decide⟩
  | array items => exact ⟨'[', _, toList_render_array items, by decide⟩
  | object members => exact ⟨'\x7b', _, toList_render_object members, by decide⟩

/-- The texts of all documents that nest at most this deep are read, each up to its end. -/
def Legible (depth : Nat) : Prop :=
  ∀ {v : Json} {fuel : Nat}, Wordy depth v → (render v).toList.length ≤ fuel →
    ∀ rest, value fuel depth ((render v).toList ++ rest) = some (Draft.ofJson v, rest)

section Compound

variable {depth : Nat}

theorem toList_renderItems (x y : Json) (ys : List Json) :
    (renderItems (x :: y :: ys)).toList =
      (render x).toList ++ ',' :: (renderItems (y :: ys)).toList := by
  rw [renderItems]
  simp

theorem toList_renderMember (name : String) (v : Json) :
    (renderMembers [(name, v)]).toList = (quote name).toList ++ ':' :: (render v).toList := by
  rw [renderMembers]
  simp

theorem toList_renderMembers (name : String) (v : Json) (e : String × Json)
    (es : List (String × Json)) :
    (renderMembers ((name, v) :: e :: es)).toList =
      (quote name).toList ++
        ':' :: ((render v).toList ++ ',' :: (renderMembers (e :: es)).toList) := by
  rw [renderMembers]
  simp

/-- The items of an array are read up to its closing bracket. -/
theorem items_render (h : Legible depth) {xs : List Json} :
    ∀ {x : Json} {fuel : Nat}, WordyItems depth (x :: xs) →
      (renderItems (x :: xs)).toList.length < fuel → ∀ acc rest,
      items fuel depth acc ((renderItems (x :: xs)).toList ++ ']' :: rest) =
        some (acc.reverse ++ Draft.ofItems (x :: xs), rest) := by
  induction xs with
  | nil =>
    intro x fuel hw hf acc rest
    obtain ⟨fuel, rfl⟩ : ∃ n, fuel = n + 1 := ⟨fuel - 1, by omega⟩
    rw [renderItems] at hf ⊢
    rw [items, h hw.1 (by omega)]
    simp [skip, Draft.ofItems]
  | cons y ys ih =>
    intro x fuel hw hf acc rest
    obtain ⟨fuel, rfl⟩ : ∃ n, fuel = n + 1 := ⟨fuel - 1, by omega⟩
    rw [toList_renderItems] at hf ⊢
    rw [List.length_append, List.length_cons] at hf
    rw [List.append_assoc, items, h hw.1 (by omega)]
    simp only [List.cons_append, skip_of_opens (c := ',') (by decide)]
    rw [ih hw.2 (by omega)]
    simp [Draft.ofItems]

/-- The name of a member is read up to the colon. -/
theorem members_quote (name : String) (fuel : Nat) (acc : List (String × Draft))
    (rest : List Char) :
    members (fuel + 1) depth (some acc) ((quote name).toList ++ ':' :: rest) =
      match value fuel depth rest with
      | none => none
      | some (v, rest) => match skip rest with
        | ',' :: rest => members fuel depth (some ((name, v) :: acc)) rest
        | '\x7d' :: rest => some (some ((name, v) :: acc).reverse, rest)
        | _ => none := by
  obtain ⟨body, hbody, hchars⟩ := chars_quote name
  rw [hbody, List.cons_append, members, skip_of_opens (by decide)]
  simp only [hchars]
  rw [skip_of_opens (by decide)]
  rfl

/-- The members of an object are read up to its closing brace. -/
theorem members_render (h : Legible depth) {es : List (String × Json)} :
    ∀ {e : String × Json} {fuel : Nat}, WordyMembers depth (e :: es) →
      (renderMembers (e :: es)).toList.length < fuel → ∀ acc rest,
      members fuel depth (some acc) ((renderMembers (e :: es)).toList ++ '\x7d' :: rest) =
        some (some (acc.reverse ++ Draft.ofMembers (e :: es)), rest) := by
  induction es with
  | nil =>
    rintro ⟨name, v⟩ fuel hw hf acc rest
    obtain ⟨fuel, rfl⟩ : ∃ n, fuel = n + 1 := ⟨fuel - 1, by omega⟩
    rw [toList_renderMember] at hf ⊢
    rw [List.length_append, List.length_cons] at hf
    rw [List.append_assoc, List.cons_append, members_quote, h hw.1 (by omega)]
    simp only [skip_of_opens (c := '\x7d') (by decide)]
    simp [Draft.ofMembers]
  | cons e es ih =>
    rintro ⟨name, v⟩ fuel hw hf acc rest
    obtain ⟨fuel, rfl⟩ : ∃ n, fuel = n + 1 := ⟨fuel - 1, by omega⟩
    rw [toList_renderMembers] at hf ⊢
    simp only [List.length_append, List.length_cons] at hf
    rw [List.append_assoc, List.cons_append, members_quote, List.append_assoc, h hw.1 (by omega)]
    simp only [List.cons_append, skip_of_opens (c := ',') (by decide)]
    rw [ih hw.2 (by omega)]
    simp [Draft.ofMembers]

theorem toList_renderItems_cons (x : Json) (xs : List Json) :
    ∃ cs, (renderItems (x :: xs)).toList = (render x).toList ++ cs := by
  cases xs with
  | nil => exact ⟨[], by rw [renderItems, List.append_nil]⟩
  | cons y ys => exact ⟨_, toList_renderItems x y ys⟩

theorem toList_renderMembers_cons (name : String) (v : Json) (es : List (String × Json)) :
    ∃ cs, (renderMembers ((name, v) :: es)).toList = (quote name).toList ++ cs := by
  cases es with
  | nil => exact ⟨_, toList_renderMember name v⟩
  | cons e es => exact ⟨_, toList_renderMembers name v e es⟩

/-- An array that is not empty is read item by item. -/
theorem value_array (h : Legible depth) {x : Json} {xs : List Json} {fuel : Nat}
    (hw : WordyItems depth (x :: xs)) (hf : (renderItems (x :: xs)).toList.length < fuel)
    (rest : List Char) :
    value (fuel + 1) (depth + 1) ('[' :: ((renderItems (x :: xs)).toList ++ ']' :: rest)) =
      some (Draft.ofJson (.array (x :: xs)), rest) := by
  have hitems := items_render h hw hf [] rest
  obtain ⟨cs, hcs⟩ := toList_renderItems_cons x xs
  obtain ⟨c, cs', hx, hopens⟩ := render_opens hw.1
  rw [hcs, hx, List.cons_append, List.cons_append] at hitems ⊢
  rw [value, skip_of_opens (by decide)]
  simp only [skip_of_opens hopens]
  split
  · next e => exact absurd (List.cons.inj e).1 hopens.2
  · rw [Nat.add_sub_cancel, hitems]
    rfl

/-- An object that is not empty is read member by member. -/
theorem value_object (h : Legible depth) {e : String × Json} {es : List (String × Json)}
    {fuel : Nat} (hw : WordyMembers depth (e :: es))
    (hf : (renderMembers (e :: es)).toList.length < fuel) (rest : List Char) :
    value (fuel + 1) (depth + 1) ('\x7b' :: ((renderMembers (e :: es)).toList ++ '\x7d' :: rest)) =
      some (Draft.ofJson (.object (e :: es)), rest) := by
  have hmembers := members_render h hw hf [] rest
  obtain ⟨cs, hcs⟩ := toList_renderMembers_cons e.1 e.2 es
  obtain ⟨body, hbody, -⟩ := chars_quote e.1
  rw [hcs, hbody, List.cons_append, List.cons_append] at hmembers ⊢
  rw [value, skip_of_opens (by decide)]
  simp only [skip_of_opens (c := '"') (by decide)]
  split
  · next e => exact absurd (List.cons.inj e).1 (by decide)
  · rw [Nat.add_sub_cancel, hmembers]
    rfl

end Compound

/-- Documents are read where those that nest one level less are. -/
theorem legible_of_pred {depth : Nat} (h : ∀ d, depth = d + 1 → Legible d) : Legible depth := by
  intro v fuel hw hf rest
  obtain ⟨c, cs, hv, -⟩ := render_opens hw
  obtain ⟨fuel, rfl⟩ : ∃ n, fuel = n + 1 := ⟨fuel - 1, by rw [hv, List.length_cons] at hf; omega⟩
  cases v with
  | null => rfl
  | bool b => cases b <;> rfl
  | number n => cases depth <;> exact hw.elim
  | string s =>
    obtain ⟨body, hbody, hchars⟩ := chars_quote s
    rw [render, hbody, List.cons_append, value, skip_of_opens (by decide)]
    simp only [hchars, Option.map_some]
    rfl
  | array items =>
    cases depth with
    | zero => exact hw.elim
    | succ depth =>
      cases items with
      | nil => rfl
      | cons x xs =>
        rw [Wordy] at hw
        rw [toList_render_array] at hf ⊢
        rw [List.length_cons, List.length_append, List.length_singleton] at hf
        rw [List.cons_append, List.append_assoc]
        exact value_array (h depth rfl) hw (by omega) rest
  | object members =>
    cases depth with
    | zero => exact hw.elim
    | succ depth =>
      cases members with
      | nil => rfl
      | cons e es =>
        rw [Wordy] at hw
        rw [toList_render_object] at hf ⊢
        rw [List.length_cons, List.length_append, List.length_singleton] at hf
        rw [List.cons_append, List.append_assoc]
        exact value_object (h depth rfl) hw (by omega) rest

/-- The text of a document is read, and what follows it is left. -/
theorem value_render (depth : Nat) : Legible depth := by
  induction depth with
  | zero => exact legible_of_pred fun _ e => by cases e
  | succ depth ih => exact legible_of_pred fun d e => by cases e; exact ih

/-- The text of a document says no more than the document. -/
theorem Draft.parse_render {v : Json} (hw : Wordy 127 v) :
    Draft.parse v.render = some (Draft.ofJson v) := by
  have h := value_render 127 hw (Nat.le_succ _) []
  rw [List.append_nil] at h
  rw [Draft.parse]
  simp only [h]
  rfl

/-- **What is read alike from documents and drafts is read from the text of a document.** -/
theorem readText_render {α : Type} {draft : Draft → Option α} {plain : Json → Option α}
    (hread : Alike draft plain) {v : Json} (hc : v.Canonical) (hw : Wordy 127 v) :
    readText draft v.render = plain v := by
  rw [readText, Draft.parse_render hw, Option.bind_some, hread v hc]

/-- **A document is read from its text.** -/
theorem parse_render {v : Json} (hc : v.Canonical) (hw : Wordy 127 v) :
    parse v.render = some v :=
  readText_render alike_any hc hw

end ResourceOperator.Json
