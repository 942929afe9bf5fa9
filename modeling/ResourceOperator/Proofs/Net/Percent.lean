import ResourceOperator.Net.Percent
import ResourceOperator.Proofs.Text.Utf8

/-!
# Percent-encoded segments

A segment of a path is sent with some of its characters encoded, and its percent signs as they are.
So a receiver that decodes it takes a percent sign with two hexadecimal digits for an octet even
where it is part of the segment (`Escaped`), and reads back any other segment.

Results:
* `decodeOctets_encode`: encoding changes nothing of what a text decodes to.
* `decode_encode`: a segment without escapes is read back.
* `length_decode_encode`: a segment is never read as a longer one, and one with escapes is read as a
  shorter one.
-/

namespace ResourceOperator.Net.Percent

open Text.Utf8

/-! ## Escapes -/

/-- A text holds a percent sign with two hexadecimal digits. -/
def Escaped (cs : List Char) : Prop :=
  ∃ a b, (hexValue? a).isSome = true ∧ (hexValue? b).isSome = true ∧ ['%', a, b] <:+: cs

/-- A text starts with a percent sign with two hexadecimal digits. -/
def StartsEscaped (cs : List Char) : Prop :=
  ∃ a b rest, (hexValue? a).isSome = true ∧ (hexValue? b).isSome = true ∧
    cs = '%' :: a :: b :: rest

theorem StartsEscaped.escaped {cs : List Char} (h : StartsEscaped cs) : Escaped cs := by
  obtain ⟨a, b, rest, ha, hb, rfl⟩ := h
  exact ⟨a, b, ha, hb, [], rest, rfl⟩

theorem escaped_cons {c : Char} {cs : List Char} :
    Escaped (c :: cs) ↔ StartsEscaped (c :: cs) ∨ Escaped cs := by
  constructor
  · rintro ⟨a, b, ha, hb, h⟩
    rcases List.infix_cons_iff.mp h with ⟨rest, e⟩ | h
    · exact .inl ⟨a, b, rest, ha, hb, e.symm⟩
    · exact .inr ⟨a, b, ha, hb, h⟩
  · rintro (h | ⟨a, b, ha, hb, h⟩)
    · exact h.escaped
    · exact ⟨a, b, ha, hb, List.infix_cons h⟩

theorem not_escaped_nil : ¬ Escaped [] := by
  rintro ⟨a, b, -, -, h⟩
  cases List.infix_nil.mp h

/-! ## Decoding -/

theorem decodeOctets_escape {a b : Char} {x y : Nat} (ha : hexValue? a = some x)
    (hb : hexValue? b = some y) (cs : List Char) :
    decodeOctets ('%' :: a :: b :: cs) = (x * 16 + y) :: decodeOctets cs := by
  rw [decodeOctets, ha, hb]

/-- A character that starts no escape decodes to its octets. -/
theorem decodeOctets_cons {c : Char} {cs : List Char} (h : ¬ StartsEscaped (c :: cs)) :
    decodeOctets (c :: cs) = octets c ++ decodeOctets cs := by
  by_cases hp : ∃ a b rest, c :: cs = '%' :: a :: b :: rest
  · obtain ⟨a, b, rest, e⟩ := hp
    obtain ⟨rfl, rfl⟩ := List.cons.inj e
    rw [decodeOctets]
    split
    · next x y ha hb => exact absurd ⟨a, b, rest, by rw [ha]; rfl, by rw [hb]; rfl, rfl⟩ h
    · rw [← encode_singleton]
      rfl
  · rw [decodeOctets, encode_singleton]
    intro a b rest hc hcs
    exact hp ⟨a, b, rest, by rw [hc, hcs]⟩

/-- A text is taken apart from its start: it is empty, starts with an escape, or with a character
that starts none. -/
theorem decodeOctets_cases (cs : List Char) :
    cs = [] ∨
    (∃ a b rest octet, cs = '%' :: a :: b :: rest ∧ StartsEscaped cs ∧
      decodeOctets cs = octet :: decodeOctets rest) ∨
    ∃ c rest, cs = c :: rest ∧ ¬ StartsEscaped cs ∧
      decodeOctets cs = octets c ++ decodeOctets rest := by
  cases cs with
  | nil => exact .inl rfl
  | cons c rest =>
    by_cases h : StartsEscaped (c :: rest)
    · obtain ⟨a, b, more, ha, hb, e⟩ := id h
      obtain ⟨x, hx⟩ := Option.isSome_iff_exists.mp ha
      obtain ⟨y, hy⟩ := Option.isSome_iff_exists.mp hb
      refine .inr (.inl ⟨a, b, more, x * 16 + y, e, h, ?_⟩)
      rw [e, decodeOctets_escape hx hy]
    · exact .inr (.inr ⟨c, rest, rfl, h, decodeOctets_cons h⟩)

/-- A text without escapes decodes to its octets. -/
theorem decodeOctets_of_not_escaped {cs : List Char} (h : ¬ Escaped cs) :
    decodeOctets cs = cs.flatMap octets := by
  induction cs with
  | nil => rfl
  | cons c cs ih =>
    rw [escaped_cons, not_or] at h
    rw [decodeOctets_cons h.1, ih h.2, List.flatMap_cons]

/-! ## Encoding -/

theorem hexValue_digit : ∀ n < 16, hexValue? (Nat.digitChar n).toUpper = some n := by
  decide

theorem decodeOctets_octet {b : Nat} (hb : b < 256) (cs : List Char) :
    decodeOctets (octet b ++ cs) = b :: decodeOctets cs := by
  refine (decodeOctets_escape (hexValue_digit _ (by omega)) (hexValue_digit _ (by omega)) cs).trans ?_
  congr 1
  omega

theorem decodeOctets_flatMap_octet {bs : List Nat} (h : ∀ b ∈ bs, b < 256) (cs : List Char) :
    decodeOctets (bs.flatMap octet ++ cs) = bs ++ decodeOctets cs := by
  induction bs with
  | nil => rfl
  | cons b bs ih =>
    obtain ⟨hb, hbs⟩ := List.forall_mem_cons.mp h
    rw [List.flatMap_cons, List.append_assoc, decodeOctets_octet hb, ih hbs, List.cons_append]

theorem octets_lt {c : Char} {b : Nat} (h : b ∈ octets c) : b < 256 := by
  obtain ⟨u, -, rfl⟩ := List.mem_map.mp h
  exact u.toNat_lt

/-- A hexadecimal digit is a letter or a figure. -/
theorem range_of_hexValue {c : Char} (h : (hexValue? c).isSome = true) :
    48 ≤ c.toNat ∧ c.toNat ≤ 57 ∨ 65 ≤ c.toNat ∧ c.toNat ≤ 70 ∨ 97 ≤ c.toNat ∧ c.toNat ≤ 102 := by
  rw [hexValue?] at h
  split at h
  · next hd =>
    simp only [Char.isDigit, ge_iff_le, Bool.and_eq_true, decide_eq_true_eq] at hd
    exact .inl hd
  · split at h
    · next hl => exact .inr (.inr hl)
    · split at h
      · next hu => exact .inr (.inl hu)
      · cases h

/-- The digits of an escape stand for themselves in a path. -/
theorem inPath_of_hexValue {c : Char} (h : (hexValue? c).isSome = true) : inPath c = false := by
  have hr := range_of_hexValue h
  have hne : ∀ d : Char, hexValue? d = none → (c == d) = false := by
    intro d hd
    refine beq_eq_false_iff_ne.mpr ?_
    rintro rfl
    rw [hd] at h
    cases h
  have hcontrol : isControl c = false := by
    simp only [isControl, Bool.or_eq_false_iff, decide_eq_false_iff_not]
    omega
  have hgrave : (c.toNat == 0x60) = false := by
    simp only [beq_eq_false_iff_ne]
    omega
  simp only [inPath, hcontrol, hgrave, hne ' ' rfl, hne '"' rfl, hne '#' rfl, hne '<' rfl,
    hne '>' rfl, hne '?' rfl, hne '\x7b' rfl, hne '\x7d' rfl, Bool.or_false]

theorem encode_cons (c : Char) (cs : List Char) :
    encode inPath (c :: cs) =
      (if inPath c then (octets c).flatMap octet else [c]) ++ encode inPath cs := by
  rw [encode, List.flatMap_cons, encode_singleton]
  rfl

theorem encode_cons_of_inPath {c : Char} (h : inPath c = false) (cs : List Char) :
    encode inPath (c :: cs) = c :: encode inPath cs := by
  rw [encode_cons, h]
  rfl

/-- A character that is no percent sign stands in an encoded text only for itself. -/
theorem of_encode_eq_cons {cs rest : List Char} {a : Char} (ha : a ≠ '%')
    (h : encode inPath cs = a :: rest) : ∃ more, cs = a :: more ∧ encode inPath more = rest := by
  cases cs with
  | nil => cases h
  | cons c cs =>
    rw [encode_cons] at h
    cases hc : inPath c with
    | false =>
      rw [hc] at h
      obtain ⟨rfl, rfl⟩ := List.cons.inj h
      exact ⟨cs, rfl, rfl⟩
    | true =>
      -- an encoded character starts with a percent sign
      obtain ⟨b, bs, hb, -⟩ := octets_start c
      rw [hc, if_pos rfl, hb] at h
      exact absurd (List.cons.inj h).1.symm ha

theorem not_startsEscaped_encode {c : Char} {cs : List Char} (h : ¬ StartsEscaped (c :: cs)) :
    ¬ StartsEscaped (c :: encode inPath cs) := by
  rintro ⟨a, b, rest, ha, hb, e⟩
  have hne : ∀ {d : Char}, (hexValue? d).isSome = true → d ≠ '%' := by
    rintro d hd rfl
    cases hd
  obtain ⟨rfl, e₁⟩ := List.cons.inj e
  obtain ⟨more, rfl, e₂⟩ := of_encode_eq_cons (hne ha) e₁
  obtain ⟨last, rfl, -⟩ := of_encode_eq_cons (hne hb) e₂
  exact h ⟨a, b, last, ha, hb, rfl⟩

/-- What a text decodes to is not changed by encoding it. -/
theorem decodeOctets_encode (cs : List Char) :
    decodeOctets (encode inPath cs) = decodeOctets cs := by
  match cs with
  | [] => rfl
  | c :: cs =>
    by_cases h : StartsEscaped (c :: cs)
    · obtain ⟨a, b, rest, ha, hb, e⟩ := h
      obtain ⟨rfl, rfl⟩ := List.cons.inj e
      obtain ⟨x, hx⟩ := Option.isSome_iff_exists.mp ha
      obtain ⟨y, hy⟩ := Option.isSome_iff_exists.mp hb
      rw [encode_cons_of_inPath (by decide), encode_cons_of_inPath (inPath_of_hexValue ha),
        encode_cons_of_inPath (inPath_of_hexValue hb), decodeOctets_escape hx hy,
        decodeOctets_escape hx hy, decodeOctets_encode rest]
    · rw [decodeOctets_cons h]
      cases hc : inPath c with
      | true =>
        rw [encode_cons, hc, if_pos rfl, decodeOctets_flatMap_octet fun b hb => octets_lt hb,
          decodeOctets_encode cs]
      | false =>
        rw [encode_cons_of_inPath hc, decodeOctets_cons (not_startsEscaped_encode h),
          decodeOctets_encode cs]
termination_by cs.length

/-! ## What is read back -/

/-- Octets that continue a character stand for escapes in what a text decodes to, so past them
stands what a shorter text decodes to. -/
theorem decodeOctets_suffix {used rest : List Nat} (hused : ∀ b ∈ used, Continues b) :
    ∀ {cs : List Char}, decodeOctets cs = used ++ rest →
      ∃ more : List Char, more.length ≤ cs.length ∧ decodeOctets more = rest := by
  induction used with
  | nil => exact fun {cs} h => ⟨cs, Nat.le_refl _, h⟩
  | cons u used ih =>
    intro cs h
    obtain ⟨hu, hused⟩ := List.forall_mem_cons.mp hused
    rcases decodeOctets_cases cs with rfl | ⟨a, b, tail, octet, rfl, -, e⟩ | ⟨c, tail, rfl, -, e⟩
    · cases h
    · obtain ⟨-, htail⟩ := List.cons.inj (e.symm.trans h)
      obtain ⟨more, hle, hmore⟩ := ih hused htail
      refine ⟨more, ?_, hmore⟩
      simp only [List.length_cons]
      omega
    · obtain ⟨b, bs, hb, hstart⟩ := octets_start c
      rw [hb] at e
      obtain ⟨rfl, -⟩ := List.cons.inj (e.symm.trans h)
      exact absurd hu hstart

/-- No more characters are read back than the text has, and fewer where it holds an escape. -/
theorem length_decodeFrom (fuel : Nat) : ∀ cs : List Char,
    (decodeFrom fuel (decodeOctets cs)).length ≤ cs.length ∧
      (Escaped cs → (decodeFrom fuel (decodeOctets cs)).length < cs.length) := by
  induction fuel with
  | zero =>
    intro cs
    refine ⟨Nat.zero_le _, fun h => ?_⟩
    cases cs with
    | nil => exact absurd h not_escaped_nil
    | cons c cs => exact Nat.zero_lt_succ _
  | succ fuel ih =>
    intro cs
    rcases decodeOctets_cases cs with rfl | ⟨a, b, tail, octet, rfl, -, e⟩ | ⟨c, tail, rfl, h, e⟩
    · exact ⟨Nat.le_refl 0, fun h => absurd h not_escaped_nil⟩
    · -- one character is read for the escape, and perhaps for some after it
      obtain ⟨c, used, rest, hrest, hused, hd⟩ := decodeFrom_cons fuel octet (decodeOctets tail)
      obtain ⟨more, hle, hmore⟩ := decodeOctets_suffix hused hrest
      have hlength := (ih more).1
      rw [e, hd, ← hmore]
      simp only [List.length_cons]
      exact ⟨by omega, fun _ => by omega⟩
    · obtain ⟨hle, hlt⟩ := ih tail
      rw [e, decodeFrom_octets]
      simp only [List.length_cons]
      refine ⟨by omega, fun hescaped => ?_⟩
      have := hlt ((escaped_cons.mp hescaped).resolve_left h)
      omega

/-- A segment without escapes is read back. -/
theorem decode_encode {cs : List Char} (h : ¬ Escaped cs) :
    decode (String.ofList (encode inPath cs)) = String.ofList cs := by
  rw [decode, String.toList_ofList, decodeOctets_encode, decodeOctets_of_not_escaped h,
    decodeLossy_flatMap_octets]

/-- A segment is never read as a longer one, and one with escapes is read as a shorter one. -/
theorem length_decode_encode (cs : List Char) :
    (decode (String.ofList (encode inPath cs))).toList.length ≤ cs.length ∧
      (Escaped cs → (decode (String.ofList (encode inPath cs))).toList.length < cs.length) := by
  rw [decode, String.toList_ofList, decodeOctets_encode, decodeLossy, String.toList_ofList]
  exact length_decodeFrom _ cs

end ResourceOperator.Net.Percent
