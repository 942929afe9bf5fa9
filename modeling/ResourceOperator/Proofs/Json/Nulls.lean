import ResourceOperator.Proofs.Json.Codec

/-!
# Documents that lose their nulls

A merge takes null for the removal of a member, so a document with null members is not stored as it
is. `withoutNulls` is what is stored instead: the members that are null are gone, in every object
that is not inside an array. An array takes its place as it is.

Results:
* `merge_eq_withoutNulls`: a document written onto itself, or where there is nothing to keep, is
  stored without its null members.
* `optional_any_merge`: so a free-form member is read back without them.
-/

namespace ResourceOperator.Json

mutual

/-- The document without the null members of its objects, those inside arrays apart. -/
def withoutNulls : Json → Json
  | .object members => .object (membersWithoutNulls members)
  | .null => .null
  | .bool b => .bool b
  | .number n => .number n
  | .string s => .string s
  | .array items => .array items

/-- The members that are not null, without nulls. -/
def membersWithoutNulls : List (String × Json) → List (String × Json)
  | [] => []
  | (name, v) :: rest =>
    if v = .null then membersWithoutNulls rest
    else (name, v.withoutNulls) :: membersWithoutNulls rest

end

theorem withoutNulls_ne_null {v : Json} (h : v ≠ .null) : v.withoutNulls ≠ .null := by
  cases v with
  | null => exact absurd rfl h
  | _ => nofun

variable {name key : String} {members : List (String × Json)}

theorem name_of_mem_membersWithoutNulls {e : String × Json} (h : e ∈ membersWithoutNulls members) :
    ∃ v, (e.1, v) ∈ members := by
  induction members with
  | nil => cases h
  | cons first rest ih =>
    obtain ⟨name, v⟩ := first
    have later (h : e ∈ membersWithoutNulls rest) : ∃ w, (e.1, w) ∈ (name, v) :: rest := by
      obtain ⟨w, hw⟩ := ih h
      exact ⟨w, List.mem_cons_of_mem _ hw⟩
    rw [membersWithoutNulls] at h
    split at h
    · exact later h
    · rcases List.mem_cons.mp h with rfl | h
      · exact ⟨v, List.mem_cons_self⟩
      · exact later h

theorem sorted_membersWithoutNulls (h : Table.Sorted members) :
    Table.Sorted (membersWithoutNulls members) := by
  induction members with
  | nil => exact h
  | cons first rest ih =>
    obtain ⟨name, v⟩ := first
    obtain ⟨hfirst, hrest⟩ := List.pairwise_cons.mp h
    rw [membersWithoutNulls]
    split
    · exact ih hrest
    · refine List.pairwise_cons.mpr ⟨fun e he => ?_, ih hrest⟩
      obtain ⟨w, hw⟩ := name_of_mem_membersWithoutNulls he
      exact hfirst (e.1, w) hw

/-- A member is there without nulls, unless it is null. -/
theorem get?_membersWithoutNulls (h : Table.Sorted members) :
    Table.get? key (membersWithoutNulls members) =
      ((Table.get? key members).filter (· ≠ .null)).map withoutNulls := by
  induction members with
  | nil => rfl
  | cons first rest ih =>
    obtain ⟨name, v⟩ := first
    obtain ⟨hfirst, hrest⟩ := List.pairwise_cons.mp h
    rw [membersWithoutNulls, Table.get?_cons]
    split
    · next hv =>
      subst hv
      rw [ih hrest]
      split
      · next hk =>
        subst hk
        rw [Table.get?_eq_none_of_lt hfirst]
        rfl
      · rfl
    · next hv =>
      rw [Table.get?_cons, ih hrest]
      split <;> simp [Option.filter, hv]

/-! ## Written as they are -/

mutual

/-- **A document is stored without its null members** when it is written onto itself, or where there
is nothing to keep. -/
theorem merge_eq_withoutNulls : (v : Json) → v.Canonical → (target : Json) →
    (target = v ∨ target.mergeable = []) → target.merge v = v.withoutNulls
  | .object members, hc, target, ht => by
    obtain ⟨hs, hm⟩ := hc
    have hold : target.mergeable = members ∨ target.mergeable = [] :=
      ht.imp_left fun e => by rw [e]; rfl
    have hsorted : Table.Sorted target.mergeable := by
      rcases hold with h | h <;> rw [h]
      · exact hs
      · exact List.Pairwise.nil
    rw [merge_object, withoutNulls]
    refine congrArg Json.object (Table.ext (sorted_mergeMembers hsorted members)
      (sorted_membersWithoutNulls hs) fun key => ?_)
    rw [get?_mergeMembers hs.nodup_keys, get?_membersWithoutNulls hs]
    cases hv : Table.get? key members with
    | none =>
      rcases hold with h | h <;> rw [h]
      · exact hv
      · rfl
    | some v =>
      by_cases hn : v = .null
      · subst hn
        rfl
      · rw [mergeField_some hn]
        have hmember : ((Table.get? key target.mergeable).getD .null).merge v = v.withoutNulls := by
          refine merge_member_eq_withoutNulls members hm (key, v) (Table.mem_of_get? hv) _ ?_
          rcases hold with h | h <;> rw [h]
          · exact .inl (by rw [hv]; rfl)
          · exact .inr rfl
        simp [Option.filter, hmember, hn]
  | .null, _, _, _ => rfl
  | .bool _, _, _, _ => rfl
  | .number _, _, _, _ => rfl
  | .string _, _, _, _ => rfl
  | .array _, _, _, _ => rfl

/-- The same of each member of an object. -/
theorem merge_member_eq_withoutNulls : (members : List (String × Json)) → CanonicalMembers members →
    ∀ e ∈ members, ∀ target : Json, (target = e.2 ∨ target.mergeable = []) →
      target.merge e.2 = e.2.withoutNulls
  | [], _, e, he, _, _ => nomatch he
  | (_, v) :: rest, hc, e, he, target, ht => by
    rcases List.mem_cons.mp he with rfl | he
    · exact merge_eq_withoutNulls v hc.1 target ht
    · exact merge_member_eq_withoutNulls rest hc.2 e he target ht

end

/-! ## Free-form members -/

theorem given_any_eq_some {v w : Json} : Reader.given any v = some w ↔ v = w ∧ v ≠ .null := by
  cases v <;> simp [Reader.given, any]

theorem readable_given_any {v : Json} :
    Readable (Reader.given any) v ↔ v.Canonical ∧ v ≠ .null := by
  constructor
  · rintro ⟨w, hc, h⟩
    obtain ⟨rfl, hn⟩ := given_any_eq_some.mp h
    exact ⟨hc, hn⟩
  · exact fun ⟨hc, hn⟩ => ⟨v, hc, given_any_eq_some.mpr ⟨rfl, hn⟩⟩

/-- A free-form member that fits is read back without its nulls. -/
theorem optional_any_merge {old value : Option Json}
    (h : OptionalFits (Reader.given any) (old.getD .null) value) :
    defaultedField none (Reader.nullable any) (mergeField old value) =
      some (value.map withoutNulls) := by
  cases value with
  | none =>
    rw [mergeField_none]
    cases old with
    | none => rfl
    | some v =>
      obtain rfl : v = .null := h
      rfl
  | some v =>
    obtain ⟨hc, hn⟩ := readable_given_any.mp h.readable
    have hm : (old.getD .null).merge v = v.withoutNulls := by
      refine merge_eq_withoutNulls v hc _ (h.imp (fun h => ?_) And.left)
      exact (given_any_eq_some.mp h.2).1
    rw [mergeField_some hn, hm]
    show Reader.nullable any v.withoutNulls = _
    rw [nullable_of_ne_null (withoutNulls_ne_null hn)]
    rfl

end ResourceOperator.Json
