import ResourceOperator.Proofs.Identity

/-!
# One object in three representations

An object has an id, and its other names end in it: a resource name in a colon and the id, a URL in
a slash and the id, perhaps with more slashes behind. Where the id itself has neither a colon nor a
slash, it can be read off each of them, so that a comparison takes all names of an object to be the
same, and names of different objects to be different.

An id is read off what is written for no object as well. Two rules differ then. Slashes at the end
of a URL are dropped, so that its canonical id is what stands before them, without any slash, and
empty where nothing is left. A resource name that ends in a colon is not cut: it is its own
canonical id, the only one with a colon in it, and it is empty only where the resource name is.

Results:
* `Text.lastSegment_eq`, `Text.not_mem_lastSegment`, `Text.lastSegment_eq_empty_iff`: what stands
  after the last separator of a text.
* `Text.dropTrailing_eq`: a text without its trailing separators.
* `same_some_iff`: identities are the same when their canonical ids are.
* `Represents.canonicalId_eq`: each representation of an object stands for its id.
* `canonicalId_crn_of_colon`, `canonicalId_crn_of_not_colon`: the two cases of a resource name.
* `representations_agree`: which identities are the same, and what a canonical id looks like.
-/

namespace ResourceOperator

/-! ## The end of a text -/

namespace Text

variable {sep : Char} {s last kept : String}

theorem not_mem_lastSegment (sep : Char) (s : String) : sep ∉ (lastSegment sep s).toList := by
  unfold lastSegment
  rw [String.toList_ofList, List.mem_reverse]
  intro h
  have hne := List.mem_takeWhile_imp (p := (· != sep)) h
  simp at hne

/-- What stands after a separator is the last segment, if it has no separator in it. -/
theorem lastSegment_eq {lead : List Char} (hs : s.toList = lead ++ sep :: last.toList)
    (h : sep ∉ last.toList) : lastSegment sep s = last := by
  have hlast : ∀ c ∈ last.toList.reverse, (c != sep) = true := by
    intro c hc
    refine bne_iff_ne.mpr ?_
    rintro rfl
    exact h (List.mem_reverse.mp hc)
  have hstop : (sep :: lead.reverse).takeWhile (· != sep) = [] :=
    List.takeWhile_cons_of_neg (by simp)
  unfold lastSegment
  rw [hs, List.reverse_append, List.reverse_cons, List.append_assoc, List.singleton_append,
    List.takeWhile_append_of_pos hlast, hstop, List.append_nil, List.reverse_reverse,
    String.ofList_toList]

/-- Nothing stands after the last separator of an empty text, and of one that ends in it. -/
theorem lastSegment_eq_empty_iff :
    lastSegment sep s = "" ↔ s = "" ∨ s.toList.getLast? = some sep := by
  unfold lastSegment
  have hempty : s = "" ↔ s.toList.reverse = [] :=
    String.toList_eq_nil_iff.symm.trans List.reverse_eq_nil_iff.symm
  rw [String.ofList_eq_empty_iff, List.reverse_eq_nil_iff, List.getLast?_eq_head?_reverse, hempty]
  cases s.toList.reverse with
  | nil => simp
  | cons c rest => by_cases hc : c = sep <;> simp [hc]

/-- What is dropped are the separators at the end, and no more. -/
theorem dropTrailing_eq {dropped : List Char} (hs : s.toList = kept.toList ++ dropped)
    (hdropped : ∀ c ∈ dropped, c = sep) (hkept : kept.toList.getLast? ≠ some sep) :
    dropTrailing sep s = kept := by
  have hall : ∀ c ∈ dropped.reverse, (c == sep) = true := by
    intro c hc
    exact beq_iff_eq.mpr (hdropped c (List.mem_reverse.mp hc))
  have hstop : kept.toList.reverse.dropWhile (· == sep) = kept.toList.reverse := by
    rw [List.getLast?_eq_head?_reverse] at hkept
    cases hrev : kept.toList.reverse with
    | nil => rfl
    | cons c rest =>
      rw [hrev] at hkept
      have hc : c ≠ sep := fun e => hkept (congrArg some e)
      exact List.dropWhile_cons_of_neg (by simpa using hc)
  unfold dropTrailing
  rw [hs, List.reverse_append, List.dropWhile_append_of_pos hall, hstop, List.reverse_reverse,
    String.ofList_toList]

end Text

namespace Identity

variable {id : String} {i j : Identity}

/-! ## Comparison -/

/-- Identities are the same when their canonical ids are, also where these are empty. -/
theorem same_some_iff : same (some i) (some j) = true ↔ i.canonicalId = j.canonicalId := by
  unfold same
  rw [beq_iff_eq]
  by_cases hi : i.canonicalId = ""
  · rw [canonicalId?_none hi, hi]
    by_cases hj : j.canonicalId = ""
    · rw [canonicalId?_none hj, hj]
      exact iff_of_true rfl rfl
    · rw [canonicalId?_some hj]
      exact iff_of_false nofun fun e => hj e.symm
  · rw [canonicalId?_some hi]
    by_cases hj : j.canonicalId = ""
    · rw [canonicalId?_none hj, hj]
      exact iff_of_false nofun hi
    · rw [canonicalId?_some hj]
      exact Option.some_inj

/-! ## Representations of an object -/

/-- The id of an object: it is there, and it has neither of the characters that separate it from
what stands before it in a longer name. -/
structure Plain (id : String) : Prop where
  ne_empty : id ≠ ""
  no_slash : '/' ∉ id.toList
  no_colon : ':' ∉ id.toList

/-- An identity is written for the object with this id. -/
inductive Represents (id : String) : Identity → Prop where
  | byId : Represents id (.byId id)
  | crn (lead : String) : Represents id ⟨.crn, lead ++ ":" ++ id⟩
  | href (lead : String) (slashes : Nat) :
    Represents id ⟨.href, lead ++ "/" ++ id ++ String.ofList (List.replicate slashes '/')⟩

/-- A longer name with an id at its end. -/
theorem toList_named (lead id : String) (sep : Char) :
    (lead ++ String.ofList [sep] ++ id).toList = lead.toList ++ sep :: id.toList := by
  simp

theorem canonicalId_crn_of_last {name : String} (h : Text.lastSegment ':' name ≠ "") :
    canonicalId ⟨.crn, name⟩ = Text.lastSegment ':' name :=
  if_neg fun hempty => h (String.isEmpty_iff.mp hempty)

/-- Slashes after an id are not part of it. -/
theorem dropTrailing_slashes (h : Plain id) (lead : String) (slashes : Nat) :
    Text.dropTrailing '/' (lead ++ "/" ++ id ++ String.ofList (List.replicate slashes '/')) =
      lead ++ "/" ++ id := by
  have hs : (lead ++ "/" ++ id ++ String.ofList (List.replicate slashes '/')).toList =
      (lead ++ "/" ++ id).toList ++ List.replicate slashes '/' := by
    rw [String.toList_append, String.toList_ofList]
  refine Text.dropTrailing_eq hs ?_ ?_
  · exact fun c hc => (List.mem_replicate.mp hc).2
  · intro hlast
    cases hid : id.toList.getLast? with
    | none => exact h.ne_empty (String.toList_eq_nil_iff.mp (List.getLast?_eq_none_iff.mp hid))
    | some c =>
      rw [String.toList_append, List.getLast?_append, hid, Option.some_or] at hlast
      cases hlast
      exact h.no_slash (List.mem_of_getLast? hid)

/-- Each representation of an object stands for its id. -/
theorem Represents.canonicalId_eq (hr : Represents id i) (h : Plain id) : i.canonicalId = id := by
  cases hr with
  | byId => rfl
  | crn lead =>
    have hlast : Text.lastSegment ':' (lead ++ ":" ++ id) = id :=
      Text.lastSegment_eq (toList_named lead id ':') h.no_colon
    have hne : Text.lastSegment ':' (lead ++ ":" ++ id) ≠ "" := by
      rw [hlast]
      exact h.ne_empty
    rw [canonicalId_crn_of_last hne, hlast]
  | href lead slashes =>
    unfold canonicalId
    dsimp only
    rw [dropTrailing_slashes h]
    exact Text.lastSegment_eq (toList_named lead id '/') h.no_slash

/-! ## Resource names -/

theorem canonicalId_crn_of_colon {name : String} (h : name.toList.getLast? = some ':') :
    canonicalId ⟨.crn, name⟩ = name :=
  if_pos (String.isEmpty_iff.mpr (Text.lastSegment_eq_empty_iff.mpr (.inr h)))

theorem canonicalId_crn_of_not_colon {name : String} (h : name.toList.getLast? ≠ some ':') :
    canonicalId ⟨.crn, name⟩ = Text.lastSegment ':' name := by
  by_cases hempty : Text.lastSegment ':' name = ""
  · rcases Text.lastSegment_eq_empty_iff.mp hempty with rfl | hcolon
    · rfl
    · exact absurd hcolon h
  · exact canonicalId_crn_of_last hempty

/-- **All representations of an object are equal.** Each of them stands for the id of the object,
and it is the same as a representation of any object exactly if that has the same id. For every
identity, what it stands for stands for itself. What a URL stands for has no slash in it. What a
resource name stands for is there if the resource name is, and it has no colon in it, unless the
resource name ends in one and stands for itself. -/
theorem representations_agree :
    (∀ id, Plain id → ∀ i, Represents id i → i.canonicalId = id ∧
      ∀ other, Plain other → ∀ j, Represents other j → (same (some i) (some j) = true ↔ id = other)) ∧
    (∀ i : Identity, (byId i.canonicalId).canonicalId = i.canonicalId) ∧
    (∀ url, '/' ∉ (canonicalId ⟨.href, url⟩).toList) ∧
    (∀ name, (canonicalId ⟨.crn, name⟩ ≠ "" ↔ name ≠ "") ∧
      (name.toList.getLast? ≠ some ':' → ':' ∉ (canonicalId ⟨.crn, name⟩).toList) ∧
      (name.toList.getLast? = some ':' → canonicalId ⟨.crn, name⟩ = name)) := by
  refine ⟨?_, fun _ => rfl, fun url => Text.not_mem_lastSegment '/' _, fun name => ⟨?_, ?_, ?_⟩⟩
  · intro id hid i hi
    refine ⟨hi.canonicalId_eq hid, fun other hother j hj => ?_⟩
    rw [same_some_iff, hi.canonicalId_eq hid, hj.canonicalId_eq hother]
  · rw [ne_eq, ne_eq, canonicalId_eq_empty_iff]
    simp [isEmpty]
  · intro hcolon
    rw [canonicalId_crn_of_not_colon hcolon]
    exact Text.not_mem_lastSegment ':' name
  · exact canonicalId_crn_of_colon

/-- An id, a resource name and a URL with two slashes too many are the same, and a URL of another
object is not. -/
theorem networkAcl_representations :
    same (some (.byId "r006-1")) (some ⟨.crn, "crn:v1:is:us-south:a/123::network-acl:r006-1"⟩) ∧
    same (some ⟨.crn, "crn:v1:is:us-south:a/123::network-acl:r006-1"⟩)
      (some ⟨.href, "https://iaas/v1/network_acls/r006-1//"⟩) ∧
    ¬ same (some (.byId "r006-1")) (some ⟨.href, "https://iaas/v1/network_acls/r006-2"⟩) := by
  have hfirst : Plain "r006-1" := ⟨by decide, by decide, by decide⟩
  have hsecond : Plain "r006-2" := ⟨by decide, by decide, by decide⟩
  have hcrn : Represents "r006-1" ⟨.crn, "crn:v1:is:us-south:a/123::network-acl:r006-1"⟩ :=
    .crn "crn:v1:is:us-south:a/123::network-acl"
  have hurl : Represents "r006-1" ⟨.href, "https://iaas/v1/network_acls/r006-1//"⟩ :=
    .href "https://iaas/v1/network_acls" 2
  have hother : Represents "r006-2" ⟨.href, "https://iaas/v1/network_acls/r006-2"⟩ :=
    .href "https://iaas/v1/network_acls" 0
  obtain ⟨hequal, -⟩ := representations_agree
  obtain ⟨-, hid⟩ := hequal _ hfirst _ .byId
  obtain ⟨-, hname⟩ := hequal _ hfirst _ hcrn
  refine ⟨(hid _ hfirst _ hcrn).mpr rfl, (hname _ hfirst _ hurl).mpr rfl, fun hsame => ?_⟩
  exact absurd ((hid _ hsecond _ hother).mp hsame) (by decide)

end Identity

end ResourceOperator
