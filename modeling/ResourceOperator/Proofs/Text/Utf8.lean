import ResourceOperator.Text.Utf8

/-!
# Characters and their octets

The octets of a text are those of its characters, one after the other (`octets`). A decoder that
starts at the octets of a character reads that character and stops right after it, and one that
starts at any octet reads one character and stops before the next octet that may start one.

Results:
* `encode_ofList`: the octets of a text, character by character.
* `decodeFrom_octets`: a character is read back.
* `decodeLossy_flatMap_octets`: so is a text.
* `decodeFrom_cons`: what the decoder may pass over beside the octet that it starts at.
-/

namespace ResourceOperator.Text.Utf8

/-! ## The octets of a text -/

/-- The octets of a character. -/
def octets (c : Char) : List Nat :=
  (String.utf8EncodeChar c).map UInt8.toNat

theorem toList_loop (bs : ByteArray) (i : Nat) (acc : List UInt8) :
    ByteArray.toList.loop bs i acc = acc.reverse ++ bs.data.toList.drop i := by
  rw [ByteArray.toList.loop]
  split
  · next h =>
    have hi : i < bs.data.toList.length := by simpa using h
    have hget : bs.get! i = bs.data.toList[i] := by
      obtain ⟨data⟩ := bs
      exact getElem!_pos data i h
    rw [toList_loop bs (i + 1), List.drop_eq_getElem_cons hi, List.reverse_cons, List.append_assoc,
      hget]
    rfl
  · next h =>
    rw [List.drop_eq_nil_of_le (by simpa using h), List.append_nil]
termination_by bs.size - i

theorem toList_toByteArray (l : List UInt8) : l.toByteArray.toList = l := by
  rw [ByteArray.toList, toList_loop]
  simp

theorem encode_ofList (cs : List Char) : encode (String.ofList cs) = cs.flatMap octets := by
  rw [encode, String.toUTF8, String.toByteArray_ofList, List.utf8Encode, toList_toByteArray,
    List.map_flatMap]
  rfl

theorem encode_singleton (c : Char) : encode (String.singleton c) = octets c := by
  rw [String.singleton_eq_ofList, encode_ofList, List.flatMap_singleton]

/-- Characters are the scalar values: no surrogates, and none beyond the last plane. -/
theorem scalar (c : Char) : c.toNat < 0xD800 ∨ 0xDFFF < c.toNat ∧ c.toNat < 0x110000 := c.valid

/-- The octets of a character are its bits in groups of six, the first group marked by their
number. -/
theorem octets_eq (c : Char) : octets c =
    if c.toNat < 0x80 then [c.toNat]
    else if c.toNat < 0x800 then [0xC0 + c.toNat / 64, 0x80 + c.toNat % 64]
    else if c.toNat < 0x10000 then
      [0xE0 + c.toNat / 4096, 0x80 + c.toNat / 64 % 64, 0x80 + c.toNat % 64]
    else
      [0xF0 + c.toNat / 262144, 0x80 + c.toNat / 4096 % 64, 0x80 + c.toNat / 64 % 64,
        0x80 + c.toNat % 64] := by
  have hc := scalar c
  have hval : c.val.toNat = c.toNat := rfl
  rw [octets, String.utf8EncodeChar]
  simp only [hval]
  by_cases h₁ : c.toNat < 0x80
  · rw [if_pos (by omega), if_pos h₁]
    simp only [List.map_cons, List.map_nil, UInt8.toNat_ofNat']
    rw [Nat.mod_eq_of_lt (by omega)]
  · by_cases h₂ : c.toNat < 0x800
    · rw [if_neg (by omega), if_pos (by omega), if_neg h₁, if_pos h₂]
      simp only [List.map_cons, List.map_nil, UInt8.toNat_ofNat']
      simp only [List.cons.injEq, and_true]
      omega
    · by_cases h₃ : c.toNat < 0x10000
      · rw [if_neg (by omega), if_neg (by omega), if_pos (by omega), if_neg h₁, if_neg h₂, if_pos h₃]
        simp only [List.map_cons, List.map_nil, UInt8.toNat_ofNat']
        simp only [List.cons.injEq, and_true]
        omega
      · rw [if_neg (by omega), if_neg (by omega), if_neg (by omega), if_neg h₁, if_neg h₂, if_neg h₃]
        simp only [List.map_cons, List.map_nil, UInt8.toNat_ofNat']
        simp only [List.cons.injEq, and_true]
        omega

/-! ## Reading a character -/

theorem lead_two : ∀ n < 30, lead (0xC2 + n) = some (1, n + 2, 0x80, 0xBF) := by
  decide

theorem lead_three : ∀ n < 16,
    lead (0xE0 + n) = some (2, n, if n = 0 then 0xA0 else 0x80, if n = 13 then 0x9F else 0xBF) := by
  decide

theorem lead_four : ∀ n < 5,
    lead (0xF0 + n) = some (3, n, if n = 0 then 0x90 else 0x80, if n = 4 then 0x8F else 0xBF) := by
  decide

theorem tail_of_within {count bits low high b : Nat} (bs : List Nat) (hl : low ≤ b)
    (hh : b ≤ high) :
    tail (count + 1) bits low high (b :: bs) = tail count (bits * 64 + (b - 0x80)) 0x80 0xBF bs :=
  if_pos ⟨hl, hh⟩

/-- Where the first octet is no character and the octets after it complete it, the character of
these bits is read. -/
theorem decodeFrom_of_tail {fuel b count bits low high n : Nat} {bs rest : List Nat}
    (hb : ¬ b < 0x80) (hl : lead b = some (count, bits, low, high))
    (ht : tail count bits low high bs = (some n, rest)) :
    decodeFrom (fuel + 1) (b :: bs) = Char.ofNat n :: decodeFrom fuel rest := by
  rw [decodeFrom, if_neg hb, hl]
  simp only [ht]

/-- The decoder reads a character and stops right after it. -/
theorem decodeFrom_octets (c : Char) (fuel : Nat) (rest : List Nat) :
    decodeFrom (fuel + 1) (octets c ++ rest) = c :: decodeFrom fuel rest := by
  have hc := scalar c
  have hchar : Char.ofNat c.toNat = c := Char.ofNat_toNat c
  rw [octets_eq]
  by_cases h₁ : c.toNat < 0x80
  · rw [if_pos h₁, List.singleton_append, decodeFrom, if_pos h₁, hchar]
  rw [if_neg h₁]
  by_cases h₂ : c.toNat < 0x800
  · have hlead : 0xC0 + c.toNat / 64 = 0xC2 + (c.toNat / 64 - 2) := by omega
    rw [if_pos h₂, hlead]
    simp only [List.cons_append, List.nil_append]
    refine (decodeFrom_of_tail (by omega) (lead_two _ (by omega)) ?_).trans
      (congrArg (· :: decodeFrom fuel rest) hchar)
    rw [tail_of_within _ (by omega) (by omega), tail]
    exact congrArg (fun n => (some n, rest)) (by omega)
  rw [if_neg h₂]
  by_cases h₃ : c.toNat < 0x10000
  · rw [if_pos h₃]
    simp only [List.cons_append, List.nil_append]
    refine (decodeFrom_of_tail (by omega) (lead_three _ (by omega)) ?_).trans
      (congrArg (· :: decodeFrom fuel rest) hchar)
    rw [tail_of_within _ (by split <;> omega) (by split <;> omega),
      tail_of_within _ (by omega) (by omega), tail]
    exact congrArg (fun n => (some n, rest)) (by omega)
  · rw [if_neg h₃]
    simp only [List.cons_append, List.nil_append]
    refine (decodeFrom_of_tail (by omega) (lead_four _ (by omega)) ?_).trans
      (congrArg (· :: decodeFrom fuel rest) hchar)
    rw [tail_of_within _ (by split <;> omega) (by split <;> omega),
      tail_of_within _ (by omega) (by omega), tail_of_within _ (by omega) (by omega), tail]
    exact congrArg (fun n => (some n, rest)) (by omega)

theorem decodeFrom_flatMap_octets {cs : List Char} :
    ∀ {fuel : Nat}, cs.length ≤ fuel → decodeFrom fuel (cs.flatMap octets) = cs := by
  induction cs with
  | nil => intro fuel _; cases fuel <;> rfl
  | cons c cs ih =>
    intro fuel h
    cases fuel with
    | zero => simp at h
    | succ fuel =>
      rw [List.flatMap_cons, decodeFrom_octets, ih (by simpa using h)]

theorem octets_ne_nil (c : Char) : octets c ≠ [] := by
  rw [octets_eq]
  split
  · simp
  · split
    · simp
    · split <;> simp

theorem length_le_flatMap_octets (cs : List Char) : cs.length ≤ (cs.flatMap octets).length := by
  induction cs with
  | nil => exact Nat.le_refl 0
  | cons c cs ih =>
    have hpos := List.length_pos_iff.mpr (octets_ne_nil c)
    rw [List.flatMap_cons, List.length_append, List.length_cons]
    omega

/-- A text is read back from its octets. -/
theorem decodeLossy_flatMap_octets (cs : List Char) :
    decodeLossy (cs.flatMap octets) = String.ofList cs := by
  rw [decodeLossy, decodeFrom_flatMap_octets (length_le_flatMap_octets cs)]

/-! ## Reading from any octet -/

/-- What may follow the first octet of a character. -/
def Continues (b : Nat) : Prop := 0x80 ≤ b ∧ b ≤ 0xBF

/-- No character starts with an octet that continues one. -/
theorem octets_start (c : Char) : ∃ b bs, octets c = b :: bs ∧ ¬ Continues b := by
  have hc := scalar c
  rw [octets_eq]
  split
  · exact ⟨_, _, rfl, by rintro ⟨_, _⟩; omega⟩
  · split
    · exact ⟨_, _, rfl, by rintro ⟨_, _⟩; omega⟩
    · split
      · exact ⟨_, _, rfl, by rintro ⟨_, _⟩; omega⟩
      · exact ⟨_, _, rfl, by rintro ⟨_, _⟩; omega⟩

/-- The octets that complete a sequence all continue it. -/
theorem tail_eq (count bits : Nat) {low high : Nat} (bs : List Nat) (hl : 0x80 ≤ low)
    (hh : high ≤ 0xBF) :
    ∃ used rest value, bs = used ++ rest ∧ (∀ b ∈ used, Continues b) ∧
      tail count bits low high bs = (value, rest) := by
  induction count generalizing bits low high bs with
  | zero => exact ⟨[], bs, some bits, rfl, fun _ h => absurd h List.not_mem_nil, rfl⟩
  | succ count ih =>
    cases bs with
    | nil => exact ⟨[], [], none, rfl, fun _ h => absurd h List.not_mem_nil, rfl⟩
    | cons b bs =>
      by_cases h : low ≤ b ∧ b ≤ high
      · obtain ⟨used, rest, value, e, hused, ht⟩ := ih (bits * 64 + (b - 0x80)) bs
          (Nat.le_refl 0x80) (Nat.le_refl 0xBF)
        refine ⟨b :: used, rest, value, by rw [e]; rfl, ?_, (tail_of_within bs h.1 h.2).trans ht⟩
        exact List.forall_mem_cons.mpr ⟨⟨by omega, by omega⟩, hused⟩
      · exact ⟨[], b :: bs, none, rfl, fun _ h => absurd h List.not_mem_nil, if_neg h⟩

theorem lead_within {b count bits low high : Nat} (h : lead b = some (count, bits, low, high)) :
    0x80 ≤ low ∧ high ≤ 0xBF := by
  unfold lead at h
  iterate 7
    split at h
    · simp only [Option.some.injEq, Prod.mk.injEq] at h
      obtain ⟨-, -, rfl, rfl⟩ := h
      exact ⟨by decide, by decide⟩
  cases h

/-- From any octet the decoder reads one character and passes over octets that continue it. -/
theorem decodeFrom_cons (fuel b : Nat) (bs : List Nat) :
    ∃ c used rest, bs = used ++ rest ∧ (∀ b ∈ used, Continues b) ∧
      decodeFrom (fuel + 1) (b :: bs) = c :: decodeFrom fuel rest := by
  have hnone : ∀ b ∈ ([] : List Nat), Continues b := fun _ h => absurd h List.not_mem_nil
  by_cases hb : b < 0x80
  · exact ⟨Char.ofNat b, [], bs, rfl, hnone, by rw [decodeFrom, if_pos hb]⟩
  · cases hl : lead b with
    | none => exact ⟨replacement, [], bs, rfl, hnone, by rw [decodeFrom, if_neg hb, hl]⟩
    | some found =>
      obtain ⟨count, bits, low, high⟩ := found
      obtain ⟨hlow, hhigh⟩ := lead_within hl
      obtain ⟨used, rest, value, e, hused, ht⟩ := tail_eq count bits bs hlow hhigh
      cases value with
      | none =>
        refine ⟨replacement, used, rest, e, hused, ?_⟩
        rw [decodeFrom, if_neg hb, hl]
        simp only [ht]
      | some n => exact ⟨Char.ofNat n, used, rest, e, hused, decodeFrom_of_tail hb hl ht⟩

end ResourceOperator.Text.Utf8
