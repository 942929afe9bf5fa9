import ResourceOperator.Proofs.Dialogue
import ResourceOperator.Proofs.ResourceInstance.Due

/-!
# Changes of tags

Tags are declared in a list and held in a list. Neither the order nor repetitions mean anything, and
an empty tag is no tag. Two operations look at them: the comparison says whether the tags disagree,
and the changes are what to attach and what to detach. Both have to go by the same sets.

What the changes are to be is said without computing them (`TagDifference`): two ascending lists of
tags that have nothing in common, one of tags that the instance does not have and one of tags that
it has, such that the instance has the declared tags once the first are attached and the second
detached, in whichever order that is done. No other two lists are like that, so that this determines
the changes.

Results:
* `tagDifference_iff`: which tags are in the two lists.
* `tagChanges_eq_iff`: the changes are these lists.
* `tags_mem_iff`: tags disagree exactly where there is something to change.
* `tag_changes_exact`: these together, and that order, repetitions and empty tags do not matter.
* `shuffledTags_changes`: this for lists with all three of them.
-/

namespace ResourceOperator.ResourceInstance

open Cloud TextSet Dialogue

variable {p : Parameters} {s : Remote} {desired held held' attached detached : List String}

/-! ## Lists of tags -/

/-- Two lists have the same tags, in any order and however often. An empty tag is none. -/
def SameTags (a b : List String) : Prop :=
  ∀ x, x ≠ "" → (x ∈ a ↔ x ∈ b)

/-- The tags that are held once some are attached. -/
def attach (tags held : List String) : List String :=
  held ++ tags

/-- The tags that are held once some are detached. -/
def detach (tags held : List String) : List String :=
  held.filter fun t => !tags.contains t

theorem mem_attach {x : String} {tags : List String} :
    x ∈ attach tags held ↔ x ∈ held ∨ x ∈ tags := List.mem_append

theorem mem_detach {x : String} {tags : List String} :
    x ∈ detach tags held ↔ x ∈ held ∧ x ∉ tags := by
  rw [detach, List.mem_filter, Bool.not_eq_true', ← Bool.not_eq_true, List.contains_iff_mem]

theorem tagSet_congr (h : SameTags held held') : tagSet held = tagSet held' := by
  refine (sorted_tagSet held).ext (sorted_tagSet held') fun x => ?_
  rw [mem_tagSet, mem_tagSet]
  exact and_congr_left (h x)

/-! ## What the changes are to be -/

/-- What to attach to the tags that are held, and what to detach from them, so that the desired tags
are held. -/
structure TagDifference (desired held attached detached : List String) : Prop where
  sorted_attached : Sorted attached
  sorted_detached : Sorted detached
  attached_ne : ∀ x ∈ attached, x ≠ ""
  detached_ne : ∀ x ∈ detached, x ≠ ""
  disjoint : ∀ x ∈ attached, x ∉ detached
  /-- Nothing is attached that is there. -/
  attached_not_held : ∀ x ∈ attached, x ∉ held
  /-- Nothing is detached that is not there. -/
  detached_held : ∀ x ∈ detached, x ∈ held
  /-- The desired tags are held in the end. -/
  attach_first : SameTags (detach detached (attach attached held)) desired
  /-- It does not matter which is done first. -/
  detach_first : SameTags (attach attached (detach detached held)) desired

/-- To be attached are the desired tags that are not held, and to be detached the others that are. -/
theorem tagDifference_iff : TagDifference desired held attached detached ↔
    Sorted attached ∧ Sorted detached ∧
    (∀ x, x ∈ attached ↔ (x ∈ desired ∧ x ≠ "") ∧ x ∉ held) ∧
    (∀ x, x ∈ detached ↔ (x ∈ held ∧ x ≠ "") ∧ x ∉ desired) := by
  constructor
  · intro h
    refine ⟨h.sorted_attached, h.sorted_detached, fun x => ⟨fun hx => ?_, ?_⟩,
      fun x => ⟨fun hx => ?_, ?_⟩⟩
    · have hne := h.attached_ne x hx
      have hresult : x ∈ attach attached (detach detached held) := mem_attach.mpr (.inr hx)
      exact ⟨⟨(h.detach_first x hne).mp hresult, hne⟩, h.attached_not_held x hx⟩
    · rintro ⟨⟨hdesired, hne⟩, hheld⟩
      rcases mem_attach.mp ((h.detach_first x hne).mpr hdesired) with hkept | hx
      · exact absurd (mem_detach.mp hkept).1 hheld
      · exact hx
    · have hne := h.detached_ne x hx
      refine ⟨⟨h.detached_held x hx, hne⟩, fun hdesired => ?_⟩
      exact (mem_detach.mp ((h.attach_first x hne).mpr hdesired)).2 hx
    · rintro ⟨⟨hheld, hne⟩, hdesired⟩
      by_contra hx
      refine hdesired ((h.attach_first x hne).mp ?_)
      exact mem_detach.mpr ⟨mem_attach.mpr (.inl hheld), hx⟩
  · rintro ⟨hattached, hdetached, hmem, hmem'⟩
    refine ⟨hattached, hdetached, ?_, ?_, ?_, ?_, ?_, ?_, ?_⟩
    · exact fun x hx => ((hmem x).mp hx).1.2
    · exact fun x hx => ((hmem' x).mp hx).1.2
    · exact fun x hx hx' => ((hmem' x).mp hx').2 ((hmem x).mp hx).1.1
    · exact fun x hx => ((hmem x).mp hx).2
    · exact fun x hx => ((hmem' x).mp hx).1.1
    · intro x hne
      rw [mem_detach, mem_attach, hmem, hmem']
      tauto
    · intro x hne
      rw [mem_attach, mem_detach, hmem, hmem']
      tauto

/-- There is one way only to change the tags. -/
theorem TagDifference.unique {attached' detached' : List String}
    (h : TagDifference desired held attached detached)
    (h' : TagDifference desired held attached' detached') :
    attached = attached' ∧ detached = detached' := by
  obtain ⟨hattached, hdetached, hmem, hmem_detached⟩ := tagDifference_iff.mp h
  obtain ⟨hattached', hdetached', hmem', hmem_detached'⟩ := tagDifference_iff.mp h'
  refine ⟨hattached.ext hattached' fun x => ?_, hdetached.ext hdetached' fun x => ?_⟩
  · rw [hmem, hmem']
  · rw [hmem_detached, hmem_detached']

/-! ## What the changes are -/

theorem tagChanges_of_unset (h : p.tags = none) : p.tagChanges s = ([], []) := by
  rw [Parameters.tagChanges, h]

theorem tagDifference_tagChanges (h : p.tags = some desired) :
    TagDifference desired s.tags (p.tagChanges s).1 (p.tagChanges s).2 := by
  rw [Parameters.tagChanges, h]
  refine tagDifference_iff.mpr ⟨(sorted_tagSet _).diff _, (sorted_tagSet _).diff _, fun x => ?_,
    fun x => ?_⟩
  · rw [mem_diff, mem_tagSet, mem_tagSet]
    tauto
  · rw [mem_diff, mem_tagSet, mem_tagSet]
    tauto

/-- The changes are the one difference of the desired tags and those that are held. -/
theorem tagChanges_eq_iff (h : p.tags = some desired) :
    p.tagChanges s = (attached, detached) ↔ TagDifference desired s.tags attached detached := by
  have hchanges := tagDifference_tagChanges (s := s) h
  constructor
  · intro heq
    rw [heq] at hchanges
    exact hchanges
  · intro hdifference
    obtain ⟨hattached, hdetached⟩ := hchanges.unique hdifference
    exact Prod.ext hattached hdetached

/-! ## Comparison -/

/-- The fields that disagree are found with some name of the plan. -/
theorem changedFields_of_run {log : List (Exchange Catalog)} {fields : List Field}
    (run : Run (p.changedFields s) log (.ok fields)) :
    ∃ plan, fields = p.changedFieldsWith s plan := by
  obtain ⟨_, _, looked, -, hrest, -⟩ := Run.bind.mp run
  obtain ⟨-, hfields⟩ := run_done_iff.mp hrest
  cases looked with
  | error e => cases hfields
  | ok plan =>
    cases hfields
    exact ⟨plan, rfl⟩

/-- Tags are among the fields that disagree exactly where there are tags to change. -/
theorem tags_mem_iff {log : List (Exchange Catalog)} {fields : List Field}
    (run : Run (p.changedFields s) log (.ok fields)) :
    .tags ∈ fields ↔ (p.tagChanges s).1 ≠ [] ∨ (p.tagChanges s).2 ≠ [] := by
  obtain ⟨plan, rfl⟩ := changedFields_of_run run
  rw [mem_changedFieldsWith, ← tagChanges_eq_nil_iff, Prod.ext_iff]
  exact Decidable.not_and_iff_or_not

/-! ## What does not matter -/

/-- A declaration with other tags. -/
def Parameters.withTags (p : Parameters) (tags : List String) : Parameters :=
  { p with tags := some tags }

theorem tagChanges_held (h : SameTags s.tags held) :
    p.tagChanges (s.withTags held) = p.tagChanges s := by
  unfold Parameters.tagChanges Remote.withTags
  rw [tagSet_congr h]

theorem changedFields_held (h : SameTags s.tags held) :
    p.changedFields (s.withTags held) = p.changedFields s := by
  have hfields : p.changedFieldsWith (s.withTags held) = p.changedFieldsWith s := by
    funext plan
    unfold Parameters.changedFieldsWith Remote.withTags
    rw [tagSet_congr h]
  unfold Parameters.changedFields
  rw [hfields]
  rfl

theorem tagChanges_desired (hp : p.tags = some desired) (h : SameTags desired held) :
    (p.withTags held).tagChanges s = p.tagChanges s := by
  unfold Parameters.tagChanges Parameters.withTags
  rw [hp]
  dsimp only
  rw [tagSet_congr h]

theorem changedFields_desired (hp : p.tags = some desired) (h : SameTags desired held) :
    (p.withTags held).changedFields s = p.changedFields s := by
  have hfields : (p.withTags held).changedFieldsWith s = p.changedFieldsWith s := by
    funext plan
    unfold Parameters.changedFieldsWith Parameters.withTags
    rw [hp]
    dsimp only
    rw [tagSet_congr h]
  unfold Parameters.changedFields
  rw [hfields]
  rfl

/-! ## The exact difference -/

/-- **Changes of tags.** Without desired tags there is nothing to change. Otherwise the changes are
the one difference of the desired tags and those that are held. Tags are among the fields that
disagree exactly where there is something to attach or to detach. Neither the changes nor the
comparison depend on the order in which tags are declared or held, on repetitions, or on empty
tags. -/
theorem tag_changes_exact (p : Parameters) (s : Remote) :
    (p.tags = none → p.tagChanges s = ([], [])) ∧
    (∀ desired, p.tags = some desired → ∀ attached detached,
      p.tagChanges s = (attached, detached) ↔ TagDifference desired s.tags attached detached) ∧
    (∀ log fields, Run (p.changedFields s) log (.ok fields) →
      (.tags ∈ fields ↔ (p.tagChanges s).1 ≠ [] ∨ (p.tagChanges s).2 ≠ [])) ∧
    (∀ held, SameTags s.tags held →
      p.tagChanges (s.withTags held) = p.tagChanges s ∧
        p.changedFields (s.withTags held) = p.changedFields s) ∧
    (∀ desired desired', p.tags = some desired → SameTags desired desired' →
      (p.withTags desired').tagChanges s = p.tagChanges s ∧
        (p.withTags desired').changedFields s = p.changedFields s) :=
  ⟨tagChanges_of_unset, fun _ h _ _ => tagChanges_eq_iff h, fun _ _ run => tags_mem_iff run,
    fun _ h => ⟨tagChanges_held h, changedFields_held h⟩,
    fun _ _ hp h => ⟨tagChanges_desired hp h, changedFields_desired hp h⟩⟩

/-- A declaration with tags out of order, one of them repeated and one empty. -/
def shuffledTags : Parameters :=
  ⟨"cache", "us-south", "default", "redis", "standard", some ["b", "a", "b", ""], none, none, none⟩

/-- An instance of it with other tags, as untidy. -/
def strayTags : Remote :=
  ⟨"i-1", "", "crn:1", "", "cache", "", "", "", "p-1", "", "", .active, false, false, none, none,
    none, none, ["", "c", "b", "c"]⟩

/-- What is to change about untidy tags is what is to change about the same tags in order, and
nothing where the declaration has none. -/
theorem shuffledTags_changes :
    TagDifference ["b", "a", "b", ""] ["", "c", "b", "c"] ["a"] ["c"] ∧
    (∃ log fields, Run (shuffledTags.changedFields strayTags) log (.ok fields) ∧ .tags ∈ fields) ∧
    shuffledTags.tagChanges (strayTags.withTags ["b", "c"]) = (["a"], ["c"]) ∧
    (shuffledTags.withTags ["a", "b"]).tagChanges strayTags = (["a"], ["c"]) ∧
    (shuffledTags.withTags ["a", "b"]).changedFields strayTags =
      shuffledTags.changedFields strayTags ∧
    Parameters.tagChanges { shuffledTags with tags := none } strayTags = ([], []) := by
  have hchanges : shuffledTags.tagChanges strayTags = (["a"], ["c"]) := by decide +kernel
  have hheld : SameTags strayTags.tags ["b", "c"] := by
    intro x hx
    simp [strayTags, hx]
    tauto
  have hdesired : SameTags ["b", "a", "b", ""] ["a", "b"] := by
    intro x hx
    simp [hx]
    tauto
  have run : Run (shuffledTags.changedFields strayTags)
      [⟨.planName "redis" "p-1", .ok "standard"⟩]
      (.ok (shuffledTags.changedFieldsWith strayTags "standard")) :=
    .ask (I := Catalog) _ _ (.done _)
  obtain ⟨-, hexact, hcompared, hsame, hsame'⟩ := tag_changes_exact shuffledTags strayTags
  obtain ⟨hdeclared, hfields⟩ := hsame' _ _ rfl hdesired
  refine ⟨(hexact _ rfl _ _).mp hchanges, ⟨_, _, run, ?_⟩, ?_, hdeclared.trans hchanges, hfields,
    (tag_changes_exact _ strayTags).1 rfl⟩
  · exact (hcompared _ _ run).mpr (.inl (by rw [hchanges]; exact List.cons_ne_nil _ _))
  · exact (hsame _ hheld).1.trans hchanges

end ResourceOperator.ResourceInstance
