import ResourceOperator.Identity
import ResourceOperator.Proofs.Json.Codec
import ResourceOperator.Reference

/-!
# References and identities written back

Results:
* `Reference.persistent`, `Selector.persistent`, `SecretReference.persistent`,
  `DeletionPolicy.persistent`: what was read is read back.
* `Identity.decode_merge`: written onto another identity, an identity is read back only when both
  have the same form.
* `Identity.optional`: so it is read back where it fits.
-/

namespace ResourceOperator

open Json Json.Reader

theorem Reference.persistent : Persistent Reference.decode Reference.encode where
  written _ := nofun
  kept {target r} h := by
    have hn := fits_of_read (fun r : Reference => Fits text (slot "name" target.mergeable) r.name) h
      (fits_bind fits_required fun _ hn => fits_pure hn)
    have hname := persistent_text.required hn
    obtain ⟨name⟩ := r
    simpa [decode, encode, merge_object, -bind_pure_comp] using hname

theorem Reference.readable (r : Reference) : Readable Reference.decode r := by
  refine ⟨r.encode, canonical_object.mpr ⟨List.pairwise_singleton _ _, fun name v hv => ?_⟩, rfl⟩
  cases List.mem_singleton.mp hv
  trivial

/-- A reference may take the place of a missing one. -/
theorem Reference.fits_taken {target : Json} {before after : Option Reference}
    (h : OptionalFits Reference.decode target before) (ha : after = before ∨ before = none) :
    OptionalFits Reference.decode target after := by
  rcases ha with rfl | rfl
  · exact h
  · cases after with
    | none => exact h
    | some r =>
      rw [h]
      exact (Reference.readable r).fits_null

theorem Selector.persistent : Persistent Selector.decode Selector.encode where
  written _ := nofun
  kept {target s} h := by
    have hl := fits_of_read
      (fun s : Selector => Fits (table text) (slot "matchLabels" target.mergeable) s.matchLabels) h
      (fits_bind (fits_defaulted readable_no_texts) fun _ hl => fits_pure hl)
    have hlabels := persistent_texts.defaulted [] hl
    obtain ⟨labels⟩ := s
    simpa [decode, encode, merge_object, -bind_pure_comp] using hlabels

theorem SecretReference.persistent :
    Persistent SecretReference.decode SecretReference.encode where
  written _ := nofun
  kept {target s} h := by
    obtain ⟨hn, hs⟩ := fits_of_read
      (fun s : SecretReference => Fits text (slot "name" target.mergeable) s.name ∧
        Fits text (slot "namespace" target.mergeable) s.ns) h
      (fits_bind fits_required fun _ hn => fits_bind fits_required fun _ hs => fits_pure ⟨hn, hs⟩)
    have hname := persistent_text.required hn
    have hns := persistent_text.required hs
    obtain ⟨name, ns⟩ := s
    simp [decode, encode, merge_object, -bind_pure_comp] at hname hns ⊢
    exact ⟨hname, hns⟩

theorem DeletionPolicy.persistent : Persistent DeletionPolicy.decode DeletionPolicy.encode :=
  persistent_choice DeletionPolicy.named_name

/-! ## Identities -/

namespace Identity

theorem Form.named_eq_some {s : String} {f : Form} : Form.named s = some f ↔ s = f.name := by
  constructor
  · intro h
    unfold Form.named at h
    split at h <;> cases h <;> rfl
  · rintro rfl
    exact Form.named_name f

/-- An identity is read from an object that has nothing but its one member. -/
theorem decode_eq_some {v : Json} {i : Identity} : decode v = some i ↔ v = i.encode := by
  constructor
  · intro h
    unfold decode at h
    split at h
    · obtain ⟨form, hf, rfl⟩ := Option.map_eq_some_iff.mp h
      rw [Form.named_eq_some.mp hf]
      rfl
    · cases h
  · rintro rfl
    exact decode_encode i

/-- Onto a document that has nothing to keep, an identity is written as it is. -/
theorem merge_encode_of_empty {target : Json} (h : target.mergeable = []) (i : Identity) :
    target.merge i.encode = i.encode := by
  simp [encode, merge_object, h, mergeMembers, merge, Table.insert]

/-- Onto another identity, an identity is read back only in the same form: otherwise the member of
the other form survives next to its own. -/
theorem decode_merge (i j : Identity) :
    decode (i.encode.merge j.encode) = some j ↔ i.form = j.form := by
  obtain ⟨f, s⟩ := i
  obtain ⟨g, t⟩ := j
  rw [decode_eq_some]
  by_cases hfg : f = g
  · subst hfg
    refine iff_of_true ?_ rfl
    simp [encode, merge, mergeable, mergeMembers, Table.insert]
  · refine iff_of_false (fun h => ?_) hfg
    have hname : g.name ≠ f.name := fun e =>
      hfg (Option.some.inj ((Form.named_name f).symm.trans (Form.named_eq_some.mpr e.symm)))
    have hkept : (merge (encode ⟨f, s⟩) (encode ⟨g, t⟩)).get? f.name = some (.string s) := by
      rw [encode, encode, get?_merge _ (by simp [Table.keys])]
      simp [Json.get?, hname]
    rw [h] at hkept
    simp [encode, Json.get?, hname] at hkept

/-- The document has nothing to keep, or is an identity of the same form. -/
def Fits (target : Json) (i : Identity) : Prop :=
  target.mergeable = [] ∨ ∃ j : Identity, target = j.encode ∧ j.form = i.form

/-- What was read from a document fits it. -/
theorem fits_of_read {target : Json} {i : Identity} (h : Json.Fits decode target i) :
    Fits target i := by
  rcases h with ⟨-, hd⟩ | ⟨hm, -⟩
  · exact .inr ⟨i, decode_eq_some.mp hd, rfl⟩
  · exact .inl hm

theorem Fits.read_back {target : Json} {i : Identity} (h : Fits target i) :
    decode (target.merge i.encode) = some i := by
  rcases h with hm | ⟨j, rfl, hf⟩
  · rw [merge_encode_of_empty hm, decode_encode]
  · exact (decode_merge j i).mpr hf

/-- An identity that fits, or a missing one, is read back. -/
theorem optional {old : Option Json} {i : Option Identity}
    (h : Optionally Fits (old.getD .null) i) :
    optionalField decode (mergeField old (i.map encode)) = some i := by
  have written (i : Identity) : i.encode ≠ .null := nofun
  exact h.read_back written fun _ _ => Fits.read_back

/-- Written where nothing is, an identity is read back. -/
theorem optional_of_missing (i : Option Identity) :
    optionalField decode (mergeField none (i.map encode)) = some i := by
  cases i with
  | none => rfl
  | some i =>
    have hw : i.encode ≠ .null := nofun
    rw [Option.map_some, mergeField_some hw, optionalField_eq_some_some]
    refine ⟨_, rfl, merge_ne_null _ hw, ?_⟩
    rw [merge_encode_of_empty rfl, decode_encode]

/-- Written where another one was read, an identity is read back only in the same form. -/
theorem optional_of_read {old : Option Json} {i : Option Identity}
    (h : optionalField decode old = some i) {j : Option Identity} (hj : j = i ∨ j.isSome) :
    optionalField decode (mergeField old (j.map encode)) = some j ↔
      ∀ a b, i = some a → j = some b → a.form = b.form := by
  cases j with
  | none =>
    obtain rfl : none = i := hj.resolve_right (by simp)
    simpa using h
  | some b =>
    have hw : b.encode ≠ .null := nofun
    rw [Option.map_some, mergeField_some hw, optionalField_eq_some_some]
    have hread : (∃ v, some ((old.getD .null).merge b.encode) = some v ∧ v ≠ .null ∧
        decode v = some b) ↔ decode ((old.getD .null).merge b.encode) = some b :=
      ⟨fun ⟨v, e, _, hd⟩ => Option.some.inj e ▸ hd, fun hd => ⟨_, rfl, merge_ne_null _ hw, hd⟩⟩
    rw [hread]
    cases i with
    | none =>
      have hnull : (old.getD .null).mergeable = [] := by
        rcases optionalField_eq_some_none.mp h with rfl | rfl <;> rfl
      simp [merge_encode_of_empty hnull, decode_encode]
    | some a =>
      obtain ⟨v, rfl, -, hd⟩ := optionalField_eq_some_some.mp h
      rw [decode_eq_some.mp hd, Option.getD_some, decode_merge]
      exact ⟨fun hf c d hc hd => Option.some.inj hc ▸ Option.some.inj hd ▸ hf,
        fun hf => hf a b rfl rfl⟩

end Identity

end ResourceOperator
