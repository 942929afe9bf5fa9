import Mathlib.Data.List.Induction
import ResourceOperator.Json.Flatten
import ResourceOperator.Proofs.Json.Codec
import ResourceOperator.Proofs.Json.Update

/-!
# What flattening a document keeps

The scalars of a document are its leaves. Each stands at the end of a path, which names the member
or the index that is taken at each step, and the dotted key of a path joins these names. Flattening
inserts the leaves in walk order under their dotted keys, so that of two leaves with one key the
later one counts, and a leaf without a key does not.

Whether keys collide is a matter of the member names. Where none of them is empty or has a dot in
it, the names along a path can be told from its key (`names_of_dottedKey`), and two leaves differ in
a name where their paths part. Then nothing is lost.

Results:
* `flattenInto_eq`: flattening is insertion of the leaves in walk order.
* `get?_flatten`: what a key stands for, by the last leaf that has it.
* `pairwise_dottedKey`, `length_flatten`: where the names are plain, leaves have keys of their own,
  and there are as many entries as leaves.
* `leaves_flattened`: these together.
-/

namespace ResourceOperator

namespace Json

/-! ## Leaves and their keys -/

/-- A step from a document to one in it. -/
inductive Step where
  | member (name : String)
  | index (place : Nat)
  deriving DecidableEq, Repr

/-- The name of a step. -/
def Step.name : Step → String
  | .member name => name
  | .index place => toString place

/-- A scalar of a document, with the path that leads to it. -/
structure Leaf where
  path : List Step
  value : Json
  deriving DecidableEq, Repr

/-- The same leaf, one step further away. -/
def Leaf.under (step : Step) (leaf : Leaf) : Leaf :=
  { leaf with path := step :: leaf.path }

mutual

/-- The scalars of a document in walk order. -/
def leaves : Json → List Leaf
  | .object members => memberLeaves members
  | .array items => itemLeaves 0 items
  | .null => [⟨[], .null⟩]
  | .bool b => [⟨[], .bool b⟩]
  | .number n => [⟨[], .number n⟩]
  | .string s => [⟨[], .string s⟩]

/-- The scalars of array items, from an index on. -/
def itemLeaves (place : Nat) : List Json → List Leaf
  | [] => []
  | v :: rest => v.leaves.map (Leaf.under (.index place)) ++ itemLeaves (place + 1) rest

/-- The scalars of object members. -/
def memberLeaves : List (String × Json) → List Leaf
  | [] => []
  | (name, v) :: rest => v.leaves.map (Leaf.under (.member name)) ++ memberLeaves rest

end

mutual

/-- The names of all members in a document. -/
def memberNames : Json → List String
  | .object members => namesOfMembers members
  | .array items => namesOfItems items
  | .null | .bool _ | .number _ | .string _ => []

/-- The names of all members in array items. -/
def namesOfItems : List Json → List String
  | [] => []
  | v :: rest => v.memberNames ++ namesOfItems rest

/-- The names of object members, and of all members in them. -/
def namesOfMembers : List (String × Json) → List String
  | [] => []
  | (name, v) :: rest => name :: v.memberNames ++ namesOfMembers rest

end

/-- The key of a path below a prefix. -/
def keyBelow (start : String) (path : List Step) : String :=
  path.foldl (fun key step => joinKey key step.name) start

/-- The dotted key of a path. -/
def dottedKey (path : List Step) : String :=
  keyBelow "" path

/-- The dotted key of a leaf. -/
def Leaf.key (leaf : Leaf) : String :=
  dottedKey leaf.path

/-! ## Flattening inserts the leaves -/

/-- Adds a leaf below a prefix. -/
def insertLeaf (start : String) (table : Table String) (leaf : Leaf) : Table String :=
  addLeaf (keyBelow start leaf.path) table leaf.value

theorem insertLeaf_under (start : String) (step : Step) :
    (fun table leaf => insertLeaf start table (Leaf.under step leaf)) =
      insertLeaf (joinKey start step.name) := rfl

mutual

/-- Flattening a document inserts its leaves in walk order. -/
theorem flattenInto_eq (start : String) (table : Table String) :
    (v : Json) → flattenInto start table v = v.leaves.foldl (insertLeaf start) table
  | .object members => by rw [flattenInto, leaves, flattenMembers_eq]
  | .array items => by rw [flattenInto, leaves, flattenItems_eq]
  | .null => rfl
  | .bool _ => rfl
  | .number _ => rfl
  | .string _ => rfl

theorem flattenItems_eq (start : String) (place : Nat) (table : Table String) :
    (items : List Json) →
      flattenItems start place table items =
        (itemLeaves place items).foldl (insertLeaf start) table
  | [] => rfl
  | v :: rest => by
    rw [flattenItems, itemLeaves, List.foldl_append, List.foldl_map, insertLeaf_under,
      flattenInto_eq, flattenItems_eq]
    rfl

theorem flattenMembers_eq (start : String) (table : Table String) :
    (members : List (String × Json)) →
      flattenMembers start table members = (memberLeaves members).foldl (insertLeaf start) table
  | [] => rfl
  | (name, v) :: rest => by
    rw [flattenMembers, memberLeaves, List.foldl_append, List.foldl_map, insertLeaf_under,
      flattenInto_eq, flattenMembers_eq]
    rfl

end

/-- A flattened document is in order. -/
theorem sorted_insertLeaves (ls : List Leaf) {table : Table String} (h : Table.Sorted table) :
    Table.Sorted (ls.foldl (insertLeaf "") table) := by
  induction ls generalizing table with
  | nil => exact h
  | cons l rest ih =>
    refine ih ?_
    unfold insertLeaf addLeaf
    split
    · exact h
    · exact h.insert _ _

theorem sorted_flatten (v : Json) : Table.Sorted v.flatten := by
  rw [flatten, flattenInto_eq]
  exact sorted_insertLeaves _ List.Pairwise.nil

theorem get?_insertLeaf (key : String) (table : Table String) (leaf : Leaf) :
    Table.get? key (insertLeaf "" table leaf) =
      if leaf.key = key ∧ key ≠ "" then some leaf.value.leafText else Table.get? key table := by
  unfold insertLeaf addLeaf
  show Table.get? key (if leaf.key.isEmpty then table else _) = _
  by_cases hempty : leaf.key = ""
  · rw [hempty, if_pos (by decide), if_neg]
    rintro ⟨hkey, hne⟩
    exact hne hkey.symm
  · rw [if_neg (by simpa using hempty)]
    show Table.get? key (Table.insert leaf.key _ table) = _
    rw [Table.get?_insert]
    by_cases hkey : leaf.key = key
    · rw [if_pos hkey, if_pos ⟨hkey, hkey ▸ hempty⟩]
    · rw [if_neg hkey, if_neg fun h => hkey h.1]

/-- What a key stands for is told by the last leaf that has it. -/
theorem get?_insertLeaves (key : String) (ls : List Leaf) :
    Table.get? key (ls.foldl (insertLeaf "") []) =
      if key = "" then none else (ls.reverse.find? (·.key = key)).map (·.value.leafText) := by
  induction ls using List.reverseRecOn with
  | nil => simp
  | append_singleton ls leaf ih =>
    rw [List.foldl_append, List.foldl_cons, List.foldl_nil, get?_insertLeaf, ih,
      List.reverse_append, List.reverse_singleton, List.singleton_append]
    by_cases hempty : key = ""
    · rw [if_neg fun h => h.2 hempty, if_pos hempty, if_pos hempty]
    · rw [if_neg hempty, if_neg hempty]
      by_cases hkey : leaf.key = key
      · rw [if_pos ⟨hkey, hempty⟩, List.find?_cons_of_pos (by simpa using hkey)]
        rfl
      · rw [if_neg fun h => hkey h.1, List.find?_cons_of_neg (by simpa using hkey)]

/-- **An entry of a flattened document** is the text of the last leaf that has its key. -/
theorem get?_flatten {v : Json} {key text : String} :
    Table.get? key v.flatten = some text ↔
      key ≠ "" ∧ ∃ before leaf after, v.leaves = before ++ leaf :: after ∧ leaf.key = key ∧
        leaf.value.leafText = text ∧ ∀ later ∈ after, later.key ≠ key := by
  rw [flatten, flattenInto_eq, get?_insertLeaves]
  by_cases hempty : key = ""
  · simp [hempty]
  · rw [if_neg hempty, Option.map_eq_some_iff]
    constructor
    · rintro ⟨leaf, hfind, htext⟩
      obtain ⟨hkey, after, before, hsplit, hafter⟩ := List.find?_eq_some_iff_append.mp hfind
      refine ⟨hempty, before.reverse, leaf, after.reverse, ?_, by simpa using hkey, htext, ?_⟩
      · rw [← List.reverse_reverse v.leaves, hsplit]
        simp
      · intro later hlater
        simpa using hafter later (List.mem_reverse.mp hlater)
    · rintro ⟨-, before, leaf, after, hsplit, hkey, htext, hafter⟩
      refine ⟨leaf, List.find?_eq_some_iff_append.mpr ⟨by simpa using hkey, after.reverse,
        before.reverse, ?_, ?_⟩, htext⟩
      · rw [hsplit]
        simp
      · intro later hlater
        simpa using hafter later (List.mem_reverse.mp hlater)

/-- A key has an entry where a leaf has the key, and it is not empty. -/
theorem exists_get?_flatten {v : Json} {key : String} :
    (∃ text, Table.get? key v.flatten = some text) ↔
      key ≠ "" ∧ ∃ leaf ∈ v.leaves, leaf.key = key := by
  rw [flatten, flattenInto_eq, get?_insertLeaves]
  by_cases hempty : key = ""
  · simp [hempty]
  · rw [if_neg hempty, ← Option.isSome_iff_exists, Option.isSome_map, List.find?_isSome]
    simp [hempty]

/-! ## Keys that do not collide -/

/-- The name can be told from keys in which it stands: it is not empty and has no dot. -/
def PlainName (name : String) : Prop :=
  name ≠ "" ∧ '.' ∉ name.toList

/-- The names along the path of a leaf. -/
def Leaf.names (leaf : Leaf) : List String :=
  leaf.path.map Step.name

theorem plainName_toString (n : Nat) : PlainName (toString n) := by
  have hlist : (toString n).toList = Nat.toDigits 10 n := Nat.toList_repr
  constructor
  · intro h
    rw [h] at hlist
    exact Nat.toDigits_ne_nil hlist.symm
  · intro h
    rw [hlist] at h
    exact absurd (Nat.isDigit_of_mem_toDigits (by decide) (by decide) h) (by decide)

/-- Two numbers with the same decimal text are the same. -/
theorem eq_of_toString_eq {m n : Nat} (h : toString m = toString n) : m = n := by
  have hdigits : Nat.toDigits 10 m = Nat.toDigits 10 n := by
    rw [← Nat.toList_repr, ← Nat.toList_repr]
    exact congrArg String.toList h
  rw [← Nat.ofDigitChars_ten_toDigits (n := m), hdigits, Nat.ofDigitChars_ten_toDigits]

theorem keyBelow_eq {start : String} (h : start ≠ "") (path : List Step) :
    keyBelow start path = ".".intercalate (start :: path.map Step.name) := by
  induction path generalizing start with
  | nil => exact String.intercalate_singleton.symm
  | cons step rest ih =>
    have hjoin : joinKey start step.name = start ++ "." ++ step.name :=
      if_neg (by simpa using h)
    show keyBelow (joinKey start step.name) rest = _
    rw [hjoin, ih (by simp), String.intercalate_cons_append, List.map_cons,
      String.intercalate_cons_cons]

/-- The key of a path with plain names has the names in it, with dots between them. -/
theorem dottedKey_eq {path : List Step} (h : ∀ step ∈ path, PlainName step.name) :
    dottedKey path = ".".intercalate (path.map Step.name) := by
  cases path with
  | nil => exact String.intercalate_nil.symm
  | cons step rest => exact keyBelow_eq (h step List.mem_cons_self).1 rest

/-- The names along a path can be told from its key, where they are plain. -/
theorem names_of_dottedKey {path path' : List Step} (h : ∀ step ∈ path, PlainName step.name)
    (h' : ∀ step ∈ path', PlainName step.name) (hkey : dottedKey path = dottedKey path') :
    path.map Step.name = path'.map Step.name := by
  -- a key that is not empty is split at its dots
  have split : ∀ {path : List Step}, (∀ step ∈ path, PlainName step.name) → path ≠ [] →
      (dottedKey path).toList.splitOn '.' = path.map fun step => step.name.toList := by
    intro path h hne
    rw [dottedKey_eq h, String.toList_intercalate, List.map_map]
    refine List.splitOn_intercalate '.' ?_ (by simpa using hne)
    intro l hl
    obtain ⟨step, hstep, rfl⟩ := List.mem_map.mp hl
    exact (h step hstep).2
  have empty : ∀ {path : List Step}, (∀ step ∈ path, PlainName step.name) →
      dottedKey path = "" → path = [] := by
    intro path h hkey
    cases path with
    | nil => rfl
    | cons step rest =>
      have hname := (h step List.mem_cons_self).1
      rw [dottedKey_eq h, List.map_cons] at hkey
      cases rest with
      | nil => exact absurd (String.intercalate_singleton.symm.trans hkey) hname
      | cons _ _ =>
        rw [List.map_cons, String.intercalate_cons_cons] at hkey
        simp at hkey
  by_cases hp : path = []
  · subst hp
    rw [empty h' hkey.symm]
  · have hp' : path' ≠ [] := by
      rintro rfl
      exact hp (empty h hkey)
    have hlists : path.map (fun step => step.name.toList) =
        path'.map fun step => step.name.toList := by
      rw [← split h hp, ← split h' hp', hkey]
    have hnames := congrArg (List.map String.ofList) hlists
    simpa [List.map_map, Function.comp_def] using hnames

/-! ### Where leaves part -/

theorem exists_index_of_mem {items : List Json} {place : Nat} {leaf : Leaf}
    (h : leaf ∈ itemLeaves place items) :
    ∃ later rest, place ≤ later ∧ leaf.path = .index later :: rest := by
  induction items generalizing place with
  | nil => cases h
  | cons v rest ih =>
    rw [itemLeaves] at h
    rcases List.mem_append.mp h with h | h
    · obtain ⟨inner, -, rfl⟩ := List.mem_map.mp h
      exact ⟨place, inner.path, Nat.le_refl place, rfl⟩
    · obtain ⟨later, path, hle, hpath⟩ := ih h
      exact ⟨later, path, Nat.le_of_succ_le hle, hpath⟩

theorem exists_member_of_mem {members : List (String × Json)} {leaf : Leaf}
    (h : leaf ∈ memberLeaves members) :
    ∃ name v rest, (name, v) ∈ members ∧ leaf.path = .member name :: rest := by
  induction members with
  | nil => cases h
  | cons e rest ih =>
    obtain ⟨name, v⟩ := e
    rw [memberLeaves] at h
    rcases List.mem_append.mp h with h | h
    · obtain ⟨inner, -, rfl⟩ := List.mem_map.mp h
      exact ⟨name, v, inner.path, List.mem_cons_self, rfl⟩
    · obtain ⟨other, w, path, hm, hpath⟩ := ih h
      exact ⟨other, w, path, List.mem_cons_of_mem _ hm, hpath⟩

/-- Leaves below one step part where they did before the step. -/
theorem pairwise_under {ls : List Leaf} (h : ls.Pairwise fun l l' => l.names ≠ l'.names)
    (step : Step) : (ls.map (Leaf.under step)).Pairwise fun l l' => l.names ≠ l'.names :=
  List.pairwise_map.mpr (h.imp fun hne heq => hne (List.cons.inj heq).2)

mutual

/-- Two leaves of a document differ in a name along their paths. -/
theorem pairwise_names : (v : Json) → v.Canonical →
    v.leaves.Pairwise fun l l' => l.names ≠ l'.names
  | .object members, h => by
    rw [Canonical] at h
    rw [leaves]
    exact pairwise_memberNames members h.1 h.2
  | .array items, h => by
    rw [Canonical] at h
    rw [leaves]
    exact pairwise_itemNames 0 items h
  | .null, _ => List.pairwise_singleton _ _
  | .bool _, _ => List.pairwise_singleton _ _
  | .number _, _ => List.pairwise_singleton _ _
  | .string _, _ => List.pairwise_singleton _ _

theorem pairwise_itemNames (place : Nat) : (items : List Json) → CanonicalItems items →
    (itemLeaves place items).Pairwise fun l l' => l.names ≠ l'.names
  | [], _ => List.Pairwise.nil
  | v :: rest, h => by
    rw [itemLeaves]
    refine List.pairwise_append.mpr ⟨pairwise_under (pairwise_names v h.1) _,
      pairwise_itemNames (place + 1) rest h.2, fun l hl l' hl' hnames => ?_⟩
    obtain ⟨inner, -, rfl⟩ := List.mem_map.mp hl
    obtain ⟨later, path, hle, hpath⟩ := exists_index_of_mem hl'
    unfold Leaf.names at hnames
    rw [hpath] at hnames
    have heq : place = later := eq_of_toString_eq (List.cons.inj hnames).1
    omega

theorem pairwise_memberNames : (members : List (String × Json)) → Table.Sorted members →
    CanonicalMembers members →
      (memberLeaves members).Pairwise fun l l' => l.names ≠ l'.names
  | [], _, _ => List.Pairwise.nil
  | (name, v) :: rest, hs, h => by
    obtain ⟨hfirst, hrest⟩ := List.pairwise_cons.mp hs
    rw [memberLeaves]
    refine List.pairwise_append.mpr ⟨pairwise_under (pairwise_names v h.1) _,
      pairwise_memberNames rest hrest h.2, fun l hl l' hl' hnames => ?_⟩
    obtain ⟨inner, -, rfl⟩ := List.mem_map.mp hl
    obtain ⟨other, w, path, hm, hpath⟩ := exists_member_of_mem hl'
    unfold Leaf.names at hnames
    rw [hpath] at hnames
    have heq : name = other := (List.cons.inj hnames).1
    have hlt : name < other := hfirst _ hm
    exact String.lt_irrefl _ (heq ▸ hlt)

end

mutual

/-- The steps to a leaf are members of the document, or places. -/
theorem plain_steps : (v : Json) → (∀ name ∈ v.memberNames, PlainName name) →
    ∀ leaf ∈ v.leaves, ∀ step ∈ leaf.path, PlainName step.name
  | .object members, h => by
    rw [memberNames] at h
    rw [leaves]
    exact plain_memberSteps members h
  | .array items, h => by
    rw [memberNames] at h
    rw [leaves]
    exact plain_itemSteps 0 items h
  | .null, _ => by simp [leaves]
  | .bool _, _ => by simp [leaves]
  | .number _, _ => by simp [leaves]
  | .string _, _ => by simp [leaves]

theorem plain_itemSteps (place : Nat) : (items : List Json) →
    (∀ name ∈ namesOfItems items, PlainName name) →
      ∀ leaf ∈ itemLeaves place items, ∀ step ∈ leaf.path, PlainName step.name
  | [], _ => nofun
  | v :: rest, h => by
    rw [namesOfItems] at h
    obtain ⟨hv, hrest⟩ := List.forall_mem_append.mp h
    rw [itemLeaves]
    refine List.forall_mem_append.mpr ⟨?_, plain_itemSteps (place + 1) rest hrest⟩
    refine List.forall_mem_map.mpr fun leaf hl => List.forall_mem_cons.mpr ⟨?_, ?_⟩
    · exact plainName_toString place
    · exact plain_steps v hv leaf hl

theorem plain_memberSteps : (members : List (String × Json)) →
    (∀ name ∈ namesOfMembers members, PlainName name) →
      ∀ leaf ∈ memberLeaves members, ∀ step ∈ leaf.path, PlainName step.name
  | [], _ => nofun
  | (name, v) :: rest, h => by
    rw [namesOfMembers] at h
    obtain ⟨hfirst, hrest⟩ := List.forall_mem_append.mp h
    obtain ⟨hname, hv⟩ := List.forall_mem_cons.mp hfirst
    rw [memberLeaves]
    refine List.forall_mem_append.mpr ⟨?_, plain_memberSteps rest hrest⟩
    refine List.forall_mem_map.mpr fun leaf hl => List.forall_mem_cons.mpr ⟨hname, ?_⟩
    exact plain_steps v hv leaf hl

end

/-- **Leaves have keys of their own** where the names are plain. -/
theorem pairwise_dottedKey {v : Json} (hc : v.Canonical)
    (hplain : ∀ name ∈ v.memberNames, PlainName name) :
    v.leaves.Pairwise fun l l' => l.key ≠ l'.key := by
  have hsteps := plain_steps v hplain
  refine (pairwise_names v hc).imp_of_mem fun {l l'} hl hl' hnames hkey => hnames ?_
  exact names_of_dottedKey (hsteps l hl) (hsteps l' hl') hkey

/-- **There are as many entries as leaves** where the leaves have keys, and keys of their own. -/
theorem length_flatten {v : Json} (hkeys : v.leaves.Pairwise fun l l' => l.key ≠ l'.key)
    (hsome : ∀ leaf ∈ v.leaves, leaf.key ≠ "") : v.flatten.length = v.leaves.length := by
  have hperm : (Table.keys v.flatten).Perm (v.leaves.map Leaf.key) := by
    refine (List.perm_ext_iff_of_nodup (sorted_flatten v).nodup_keys
      (List.pairwise_map.mpr hkeys)).mpr fun key => ?_
    constructor
    · intro h
      obtain ⟨-, leaf, hl, hkey⟩ := exists_get?_flatten.mp (Table.exists_of_mem_keys h)
      exact List.mem_map.mpr ⟨leaf, hl, hkey⟩
    · intro h
      obtain ⟨leaf, hl, rfl⟩ := List.mem_map.mp h
      obtain ⟨text, htext⟩ := exists_get?_flatten.mpr ⟨hsome leaf hl, leaf, hl, rfl⟩
      exact Table.mem_keys_of_get? htext
  simpa [Table.keys] using hperm.length_eq

/-- The document is an object or an array. -/
def IsContainer : Json → Prop
  | .object _ | .array _ => True
  | .null | .bool _ | .number _ | .string _ => False

/-- The leaves of a container stand in it, not at its root. -/
theorem IsContainer.path_ne_nil {v : Json} (h : v.IsContainer) {leaf : Leaf}
    (hl : leaf ∈ v.leaves) : leaf.path ≠ [] := by
  cases v with
  | object members =>
    rw [leaves] at hl
    obtain ⟨name, w, rest, -, hpath⟩ := exists_member_of_mem hl
    rw [hpath]
    exact List.cons_ne_nil _ _
  | array items =>
    rw [leaves] at hl
    obtain ⟨place, rest, -, hpath⟩ := exists_index_of_mem hl
    rw [hpath]
    exact List.cons_ne_nil _ _
  | null | bool _ | number _ | string _ => exact h.elim

/-- The leaves of a container have keys, where the names are plain. -/
theorem IsContainer.key_ne_empty {v : Json} (h : v.IsContainer)
    (hplain : ∀ name ∈ v.memberNames, PlainName name) {leaf : Leaf} (hl : leaf ∈ v.leaves) :
    leaf.key ≠ "" := by
  have hsteps := plain_steps v hplain leaf hl
  intro hkey
  have hnil : leaf.path.map Step.name = [].map Step.name := names_of_dottedKey hsteps nofun hkey
  exact h.path_ne_nil hl (List.map_eq_nil_iff.mp hnil)

/-- **Flattening loses nothing and invents nothing**: a key has an entry exactly where it is the
key of a leaf and not empty, and the entry is the text of the last such leaf in walk order. Where
the member names are plain, no two leaves have the same key, and a container has as many entries as
leaves. -/
theorem leaves_flattened :
    (∀ (v : Json) (key : String), (∃ text, Table.get? key v.flatten = some text) ↔
      key ≠ "" ∧ ∃ leaf ∈ v.leaves, leaf.key = key) ∧
    (∀ (v : Json) (key text : String), Table.get? key v.flatten = some text ↔
      key ≠ "" ∧ ∃ before leaf after, v.leaves = before ++ leaf :: after ∧ leaf.key = key ∧
        leaf.value.leafText = text ∧ ∀ later ∈ after, later.key ≠ key) ∧
    (∀ v : Json, v.Canonical → (∀ name ∈ v.memberNames, PlainName name) →
      v.leaves.Pairwise (fun l l' => l.key ≠ l'.key) ∧
      (v.IsContainer → v.flatten.length = v.leaves.length)) := by
  refine ⟨fun _ _ => exists_get?_flatten, fun _ _ _ => get?_flatten, fun v hc hplain => ?_⟩
  have hkeys := pairwise_dottedKey hc hplain
  exact ⟨hkeys, fun h => length_flatten hkeys fun _ hl => h.key_ne_empty hplain hl⟩

/-- The credentials of a message broker. -/
def brokerCredentials : Json :=
  .object [
    ("api_key", .string "s3cr3t"),
    ("brokers", .array [.string "a:9093", .string "b:9093"]),
    ("http", .object [("port", ofNat 443), ("proxy", .null)])]

/-- The second broker and the proxy that is null have entries, next to the three others. -/
theorem brokerCredentials_flattened :
    Table.get? "brokers.1" brokerCredentials.flatten = some "b:9093" ∧
      Table.get? "http.proxy" brokerCredentials.flatten = some "" ∧
      brokerCredentials.leaves.Pairwise (fun l l' => l.key ≠ l'.key) ∧
      brokerCredentials.flatten.length = 5 := by
  have hflat : ∀ key text, Table.get? key brokerCredentials.flatten = some text ↔ _ :=
    leaves_flattened.2.1 brokerCredentials
  have hplain := leaves_flattened.2.2 brokerCredentials (by decide) (by
    have hnames : brokerCredentials.memberNames =
        ["api_key", "brokers", "http", "port", "proxy"] := by
      decide
    rw [hnames]
    simp [PlainName])
  refine ⟨(hflat _ _).mpr ⟨by decide, ?_⟩, (hflat _ _).mpr ⟨by decide, ?_⟩, hplain.1, ?_⟩
  · refine ⟨[⟨[.member "api_key"], .string "s3cr3t"⟩,
      ⟨[.member "brokers", .index 0], .string "a:9093"⟩],
      ⟨[.member "brokers", .index 1], .string "b:9093"⟩,
      [⟨[.member "http", .member "port"], ofNat 443⟩,
        ⟨[.member "http", .member "proxy"], .null⟩], by decide, by decide, by decide, by decide⟩
  · refine ⟨[⟨[.member "api_key"], .string "s3cr3t"⟩,
      ⟨[.member "brokers", .index 0], .string "a:9093"⟩,
      ⟨[.member "brokers", .index 1], .string "b:9093"⟩,
      ⟨[.member "http", .member "port"], ofNat 443⟩],
      ⟨[.member "http", .member "proxy"], .null⟩, [], by decide, by decide, by decide, by decide⟩
  · exact hplain.2 trivial

end Json

end ResourceOperator
