import Mathlib.Data.List.Infix
import Mathlib.Data.List.Nodup
import ResourceOperator.Proofs.Condition

/-!
# Conditions over time

A list of conditions is set again and again, by every reconciliation. What it holds in the end can
be read off what it started with and what was set, without running through the settings. For one
aspect these conditions, in order, are the history of the aspect. The condition that stands is the
first one of the longest stretch at the end of the history in which nothing but the time differs, so
that its time is when the aspect came to be as it is. Conditions of the other aspect do not break a
stretch.

Results:
* `set_cases`: what setting a condition can do to a list.
* `FinalStretch.extend`, `FinalStretch.anew`: the final stretch goes on with an equivalent
  condition, and starts anew with another one.
* `FinalStretch.unique`: a history has one final stretch.
* `finalStretch_setAll`: the condition that stands begins the final stretch.
* `conditions_follow_history`: this with the order of the aspects, and what each setting leaves
  alone.
* `troubledSync_follows_history`: conditions of both aspects, set in turns.
-/

namespace ResourceOperator

namespace Condition

variable {aspect : Aspect} {c d : Condition}
  {initial calls conditions history stretch : List Condition}

/-- Sets conditions, one after the other. -/
def setAll (calls conditions : List Condition) : List Condition :=
  calls.foldl (fun conditions c => c.set conditions) conditions

/-- The aspects of the conditions, in their order. -/
def aspects (conditions : List Condition) : List Aspect :=
  conditions.map Condition.aspect

/-- The conditions of one aspect, in their order. -/
def about (aspect : Aspect) (conditions : List Condition) : List Condition :=
  conditions.filter fun c => c.aspect = aspect

/-- The condition that stands when one is set onto another of its aspect. -/
def standing (d c : Condition) : Condition :=
  if d.equivalent c then d else c

@[simp] theorem setAll_concat (calls : List Condition) (c : Condition)
    (conditions : List Condition) :
    setAll (calls ++ [c]) conditions = c.set (setAll calls conditions) :=
  List.foldl_concat ..

theorem head?_about (aspect : Aspect) (conditions : List Condition) :
    (about aspect conditions).head? = first aspect conditions :=
  List.head?_filter

theorem about_append (aspect : Aspect) (s t : List Condition) :
    about aspect (s ++ t) = about aspect s ++ about aspect t :=
  List.filter_append ..

@[simp] theorem about_cons_self (c : Condition) (rest : List Condition) :
    about c.aspect (c :: rest) = c :: about c.aspect rest := by
  simp [about]

theorem about_cons_of_ne (h : c.aspect ≠ aspect) (rest : List Condition) :
    about aspect (c :: rest) = about aspect rest := by
  simp [about, h]

/-! ## One setting -/

theorem standing_aspect (h : d.aspect = c.aspect) : (standing d c).aspect = c.aspect := by
  unfold standing
  split
  · exact h
  · rfl

/-- Setting a condition acts on the first one of its aspect, or comes last where there is none. -/
theorem set_cases (c : Condition) (conditions : List Condition) :
    (∃ before d after, conditions = before ++ d :: after ∧ c.aspect ∉ aspects before ∧
      d.aspect = c.aspect ∧ c.set conditions = before ++ standing d c :: after) ∨
    c.aspect ∉ aspects conditions ∧ c.set conditions = conditions ++ [c] := by
  induction conditions with
  | nil => exact .inr ⟨List.not_mem_nil, rfl⟩
  | cons d rest ih =>
    by_cases ha : d.aspect = c.aspect
    · refine .inl ⟨[], d, rest, rfl, List.not_mem_nil, ha, ?_⟩
      unfold set standing
      rw [if_pos ha]
      split <;> rfl
    · have hset : c.set (d :: rest) = d :: c.set rest := if_neg ha
      have hcons {before} (hb : c.aspect ∉ aspects before) : c.aspect ∉ aspects (d :: before) :=
        List.not_mem_cons_of_ne_of_not_mem (Ne.symm ha) hb
      rw [hset]
      obtain ⟨before, b, after, rfl, hb, hab, he⟩ | ⟨hr, he⟩ := ih
      · exact .inl ⟨d :: before, b, after, rfl, hcons hb, hab, congrArg (d :: ·) he⟩
      · exact .inr ⟨hcons hr, congrArg (d :: ·) he⟩

theorem first_of_not_mem (h : aspect ∉ aspects conditions) (rest : List Condition) :
    first aspect (conditions ++ rest) = first aspect rest := by
  have hnone : conditions.find? (fun c => c.aspect = aspect) = none := by
    refine List.find?_eq_none.mpr fun c hc ha => h ?_
    exact of_decide_eq_true ha ▸ List.mem_map_of_mem hc
  unfold first
  rw [List.find?_append, hnone, Option.none_or]

/-- The condition that stands after one is set. -/
theorem first_set_eq (c : Condition) (conditions : List Condition) :
    first c.aspect (c.set conditions) =
      some ((first c.aspect conditions).elim c fun d => standing d c) := by
  obtain ⟨before, d, after, rfl, hb, ha, he⟩ | ⟨hn, he⟩ := set_cases c conditions
  · rw [he, first_of_not_mem hb, first_of_not_mem hb, first_cons, first_cons, if_pos ha,
      if_pos (standing_aspect ha)]
    rfl
  · rw [he, first_of_not_mem hn, first_cons, if_pos rfl]
    have hnone := first_of_not_mem hn []
    rw [List.append_nil] at hnone
    rw [hnone]
    rfl

/-- Conditions of another aspect stay as they are. -/
theorem about_set_of_ne (h : c.aspect ≠ aspect) (conditions : List Condition) :
    about aspect (c.set conditions) = about aspect conditions := by
  obtain ⟨before, d, after, rfl, -, ha, he⟩ | ⟨-, he⟩ := set_cases c conditions
  · have hd : (standing d c).aspect ≠ aspect := standing_aspect ha ▸ h
    rw [he, about_append, about_append, about_cons_of_ne hd, about_cons_of_ne (ha ▸ h)]
  · rw [he, about_append, about_cons_of_ne h]
    exact List.append_nil _

/-- An aspect that is there keeps its place, and a new one comes last. -/
theorem aspects_set (c : Condition) (conditions : List Condition) :
    aspects (c.set conditions) =
      if c.aspect ∈ aspects conditions then aspects conditions
      else aspects conditions ++ [c.aspect] := by
  obtain ⟨before, d, after, rfl, -, ha, he⟩ | ⟨hn, he⟩ := set_cases c conditions
  · have hm : c.aspect ∈ aspects (before ++ d :: after) := by simp [aspects, ha]
    rw [if_pos hm, he]
    simp [aspects, standing_aspect ha, ha]
  · rw [if_neg hn, he]
    simp [aspects]

theorem nodup_aspects_set (h : (aspects conditions).Nodup) (c : Condition) :
    (aspects (c.set conditions)).Nodup := by
  rw [aspects_set]
  split
  · exact h
  · next hn =>
    refine List.nodup_append.mpr ⟨h, List.nodup_cons.mpr ⟨List.not_mem_nil, List.nodup_nil⟩, ?_⟩
    intro a ha b hb e
    rw [e, List.mem_singleton.mp hb] at ha
    exact hn ha

/-! ## Final stretches -/

/-- Nothing but the time differs. -/
def Alike (conditions : List Condition) : Prop :=
  ∀ c ∈ conditions, ∀ d ∈ conditions, c.equivalent d = true

/-- The longest stretch at the end of a history in which nothing but the time differs. -/
structure FinalStretch (history stretch : List Condition) : Prop where
  suffix : stretch <:+ history
  alike : Alike stretch
  longest : ∀ other, other <:+ history → Alike other → other.length ≤ stretch.length

theorem equivalent_symm (h : c.equivalent d = true) : d.equivalent c = true := by
  obtain ⟨ha, hv, hr, hm⟩ := equivalent_iff.mp h
  exact equivalent_iff.mpr ⟨ha.symm, hv.symm, hr.symm, hm.symm⟩

theorem equivalent_trans {e : Condition} (h : c.equivalent d = true) (h' : d.equivalent e = true) :
    c.equivalent e = true := by
  obtain ⟨ha, hv, hr, hm⟩ := equivalent_iff.mp h
  obtain ⟨ha', hv', hr', hm'⟩ := equivalent_iff.mp h'
  exact equivalent_iff.mpr ⟨ha.trans ha', hv.trans hv', hr.trans hr', hm.trans hm'⟩

theorem alike_singleton (c : Condition) : Alike [c] := by
  intro a ha b hb
  rw [List.mem_singleton.mp ha, List.mem_singleton.mp hb]
  exact equivalent_refl c

theorem Alike.concat (h : Alike stretch) (hc : ∀ d ∈ stretch, d.equivalent c = true) :
    Alike (stretch ++ [c]) := by
  intro a ha b hb
  rcases List.mem_append.mp ha with ha | ha <;> rcases List.mem_append.mp hb with hb | hb
  · exact h a ha b hb
  · rw [List.mem_singleton.mp hb]
    exact hc a ha
  · rw [List.mem_singleton.mp ha]
    exact equivalent_symm (hc b hb)
  · rw [List.mem_singleton.mp ha, List.mem_singleton.mp hb]
    exact equivalent_refl c

namespace FinalStretch

/-- A history of at most one condition is its own final stretch. -/
theorem whole (h : history.length ≤ 1) : FinalStretch history history where
  suffix := List.suffix_rfl
  alike := by
    match history, h with
    | [], _ => exact fun _ hc => absurd hc List.not_mem_nil
    | [c], _ => exact alike_singleton c
  longest _ ho _ := ho.length_le

/-- A history has one final stretch. -/
theorem unique {other : List Condition} (h : FinalStretch history stretch)
    (h' : FinalStretch history other) : stretch = other := by
  have hle := h'.longest stretch h.suffix h.alike
  have hge := h.longest other h'.suffix h'.alike
  exact (List.suffix_of_suffix_length_le h.suffix h'.suffix hle).eq_of_length
    (Nat.le_antisymm hle hge)

/-- The final stretch goes on where nothing but the time differs. -/
theorem extend (h : FinalStretch history stretch) (hc : ∀ d ∈ stretch, d.equivalent c = true) :
    FinalStretch (history ++ [c]) (stretch ++ [c]) where
  suffix := List.suffix_concat_iff.mpr (.inr ⟨stretch, rfl, h.suffix⟩)
  alike := h.alike.concat hc
  longest other ho halike := by
    rcases List.suffix_concat_iff.mp ho with rfl | ⟨t, rfl, ht⟩
    · exact Nat.zero_le _
    · have hlength := h.longest t ht fun a ha b hb =>
        halike a (List.mem_append_left _ ha) b (List.mem_append_left _ hb)
      simpa using hlength

/-- The final stretch starts anew where more than the time differs. -/
theorem anew (h : FinalStretch history stretch) (hd : d ∈ stretch)
    (hc : ¬ d.equivalent c = true) : FinalStretch (history ++ [c]) [c] where
  suffix := List.suffix_append _ _
  alike := alike_singleton c
  longest other ho halike := by
    rcases List.suffix_concat_iff.mp ho with rfl | ⟨t, rfl, ht⟩
    · exact Nat.zero_le _
    · by_cases hnil : t = []
      · rw [hnil]
        exact Nat.le_refl _
      · -- the last condition before `c` would be in both stretches
        have hne : stretch ≠ [] := List.ne_nil_of_mem hd
        have hlast : t.getLast hnil = stretch.getLast hne :=
          (ht.getLast hnil).trans (h.suffix.getLast hne).symm
        have hlike : (t.getLast hnil).equivalent c = true :=
          halike _ (List.mem_append_left _ (List.getLast_mem hnil)) c
            (List.mem_append_right _ (List.mem_singleton_self c))
        rw [hlast] at hlike
        exact absurd (equivalent_trans (h.alike d hd _ (List.getLast_mem hne)) hlike) hc

end FinalStretch

/-! ## Every setting -/

theorem nodup_aspects_setAll (h : (aspects initial).Nodup) (calls : List Condition) :
    (aspects (setAll calls initial)).Nodup := by
  induction calls using List.reverseRecOn with
  | nil => exact h
  | append_singleton calls c ih =>
    rw [setAll_concat]
    exact nodup_aspects_set ih c

theorem eraseDups_of_nodup {l : List Aspect} (h : l.Nodup) : l.eraseDups = l := by
  induction l with
  | nil => rfl
  | cons a rest ih =>
    obtain ⟨ha, hrest⟩ := List.nodup_cons.mp h
    have hkept : rest.filter (fun b => !b == a) = rest := by
      refine List.filter_eq_self.mpr fun b hb => ?_
      have hne : b ≠ a := fun e => ha (e ▸ hb)
      simpa using hne
    rw [List.eraseDups_cons, hkept, ih hrest]

theorem eraseDups_concat (l : List Aspect) (a : Aspect) :
    (l ++ [a]).eraseDups = if a ∈ l then l.eraseDups else l.eraseDups ++ [a] := by
  rw [List.eraseDups_append]
  by_cases h : a ∈ l
  · simp [h, List.removeAll]
  · simp [h, List.removeAll, List.eraseDups_cons]

/-- Aspects come in the order in which they have first appeared, and none is removed. -/
theorem aspects_setAll (h : (aspects initial).Nodup) (calls : List Condition) :
    aspects (setAll calls initial) = (aspects (initial ++ calls)).eraseDups := by
  induction calls using List.reverseRecOn with
  | nil =>
    rw [List.append_nil, eraseDups_of_nodup h]
    rfl
  | append_singleton calls c ih =>
    have hconcat :
        aspects (initial ++ (calls ++ [c])) = aspects (initial ++ calls) ++ [c.aspect] := by
      simp [aspects]
    rw [setAll_concat, aspects_set, hconcat, eraseDups_concat, ih]
    simp only [List.mem_eraseDups]

/-- A list with one condition of each aspect has at most one of this aspect. -/
theorem length_about_le (h : (aspects conditions).Nodup) (aspect : Aspect) :
    (about aspect conditions).length ≤ 1 := by
  have hcount := List.nodup_iff_count_le_one.mp h aspect
  rw [aspects, List.count_eq_countP, List.countP_map, List.countP_eq_length_filter] at hcount
  exact hcount

/-- The condition that stands begins the final stretch of what was set of its aspect. -/
theorem finalStretch_setAll (h : (aspects initial).Nodup) (aspect : Aspect)
    (calls : List Condition) :
    ∃ stretch, FinalStretch (about aspect (initial ++ calls)) stretch ∧
      first aspect (setAll calls initial) = stretch.head? := by
  induction calls using List.reverseRecOn with
  | nil =>
    rw [List.append_nil]
    exact ⟨_, .whole (length_about_le h aspect), (head?_about aspect initial).symm⟩
  | append_singleton calls c ih =>
    obtain ⟨stretch, hstretch, hfirst⟩ := ih
    rw [setAll_concat, ← List.append_assoc, about_append]
    by_cases ha : c.aspect = aspect
    · subst ha
      have hconcat : about c.aspect [c] = [c] := about_cons_self c []
      -- what is set comes onto the beginning of the stretch before it
      rw [first_set_eq, hfirst, hconcat]
      cases stretch with
      | nil => exact ⟨[c], hstretch.extend fun _ hd => absurd hd List.not_mem_nil, rfl⟩
      | cons d rest =>
        by_cases he : d.equivalent c = true
        · refine ⟨d :: rest ++ [c], hstretch.extend fun b hb => ?_, ?_⟩
          · exact equivalent_trans (hstretch.alike b hb d List.mem_cons_self) he
          · simp [standing, he]
        · refine ⟨[c], hstretch.anew List.mem_cons_self he, ?_⟩
          simp [standing, he]
    · refine ⟨stretch, ?_, ?_⟩
      · rw [about_cons_of_ne ha]
        exact (List.append_nil _).symm ▸ hstretch
      · rw [first_set_of_ne ha, hfirst]

/-! ## The theorem -/

/-- What conditions have come to that began as `initial` and were set as in `calls`. -/
structure Follows (initial calls conditions : List Condition) : Prop where
  /-- There is at most one condition of each aspect. -/
  single : (aspects conditions).Nodup
  /-- The aspects stand in the order in which they have first appeared. -/
  ordered : aspects conditions = (aspects (initial ++ calls)).eraseDups
  /-- The condition of an aspect, its time included, begins the final stretch of its history. -/
  standing : ∀ aspect, ∃ stretch, FinalStretch (about aspect (initial ++ calls)) stretch ∧
    first aspect conditions = stretch.head?

/-- What one setting makes of conditions. -/
structure Updated (c : Condition) (before after : List Condition) : Prop where
  /-- No aspect is removed or changes its place. -/
  in_place : aspects before <+: aspects after
  /-- Conditions of other aspects stay as they are. -/
  others : ∀ aspect, c.aspect ≠ aspect → about aspect after = about aspect before
  /-- There is one condition of the aspect, and it differs from what was set in the time at most. -/
  told : ∃ d, about c.aspect after = [d] ∧ d.equivalent c = true

theorem updated_set (h : (aspects conditions).Nodup) (c : Condition) :
    Updated c conditions (c.set conditions) where
  in_place := by
    rw [aspects_set]
    split
    · exact List.prefix_rfl
    · exact List.prefix_append _ _
  others _ ha := about_set_of_ne ha conditions
  told := by
    obtain ⟨d, hd, he⟩ := first_set c conditions
    have hle := length_about_le (nodup_aspects_set h c) c.aspect
    rw [← head?_about] at hd
    obtain ⟨rest, hcons⟩ := List.head?_eq_some_iff.mp hd
    rw [hcons, List.length_cons] at hle
    obtain rfl : rest = [] := List.eq_nil_of_length_eq_zero (by omega)
    exact ⟨d, hcons, he⟩

end Condition

/-- The conditions of a declared resource are set as a list of conditions is. -/
theorem Managed.conditions_setCondition {k : Kind} (r : Managed k) (c : Condition) :
    (r.setCondition c).conditions = c.set r.conditions := by
  obtain ⟨metadata, spec, status⟩ := r
  cases status <;> rfl

theorem Managed.conditions_foldl_setCondition {k : Kind} (r : Managed k) (calls : List Condition) :
    (calls.foldl (fun r c => r.setCondition c) r).conditions =
      Condition.setAll calls r.conditions := by
  induction calls generalizing r with
  | nil => rfl
  | cons c rest ih =>
    rw [List.foldl_cons, ih, conditions_setCondition]
    rfl

namespace Condition

/-- **Conditions follow their history.** Whatever is set of conditions that have at most one of each
aspect, in whatever order: that stays so, the aspects stand in the order of their first appearance,
and the condition of each begins the final stretch of what was set of it. One more setting concerns
its own aspect only. The same holds of the conditions of a declared resource. -/
theorem conditions_follow_history (h : (aspects initial).Nodup) (calls : List Condition) :
    Follows initial calls (setAll calls initial) ∧
    (∀ c, Updated c (setAll calls initial) (setAll (calls ++ [c]) initial)) ∧
    ∀ (k : Kind) (r : Managed k),
      (calls.foldl (fun r c => r.setCondition c) r).conditions = setAll calls r.conditions := by
  have hnodup := nodup_aspects_setAll h calls
  have hstretch := fun aspect => finalStretch_setAll h aspect calls
  refine ⟨⟨hnodup, aspects_setAll h calls, hstretch⟩, ?_, ?_⟩
  · intro c
    rw [setAll_concat]
    exact updated_set hnodup c
  · exact fun k r => r.conditions_foldl_setCondition calls

/-- Two reconciliations fail alike, and the remote object is replaced between them. -/
def troubledSync : List Condition :=
  [reconcileSuccess "t1", available "t2", reconcileError "down" "t3", creating "t4",
    reconcileError "down" "t5", available "t6", available "t7"]

/-- The object is available since it was replaced, and reconciling it has failed since the first of
the two. -/
theorem troubledSync_follows_history :
    Follows [available "t0"] troubledSync [available "t6", reconcileError "down" "t3"] :=
  (conditions_follow_history (by decide) troubledSync).1

end Condition

end ResourceOperator
