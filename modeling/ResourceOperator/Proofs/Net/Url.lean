import ResourceOperator.Net.Url
import ResourceOperator.Proofs.Net.Percent

/-!
# URLs that end in an id

The URL of an object is the URL of its collection with a slash and the id of the object after it,
read as a whole. An id is `Plain` when no part of it has a meaning of its own in a URL: no slash of
either kind, nothing that ends the path, nothing that is dropped, no dot segment and no escape.

Results:
* `segments_append`, `resolve_append`: a path is read segment by segment.
* `parse_extended`: what follows a base URL is read as a path below it.
* `addressed_iff`: the URL of an object has the path of its collection and one segment more, which
  decodes to the id, exactly where the id is plain.
-/

namespace ResourceOperator.Net.Url

/-! ## Segments -/

theorem segments_of_slash {c : Char} (h : isSlash c = true) (cs : List Char) :
    segments (c :: cs) = [] :: segments cs := if_pos h

theorem segments_ne_nil (cs : List Char) : segments cs ≠ [] := by
  cases cs with
  | nil => exact List.cons_ne_nil _ _
  | cons c cs =>
    rw [segments]
    split
    · exact List.cons_ne_nil _ _
    · split <;> exact List.cons_ne_nil _ _

/-- A character that is no slash belongs to the first segment. -/
theorem segments_of_not_slash {c : Char} (h : isSlash c = false) {cs s : List Char}
    {rest : List (List Char)} (hs : segments cs = s :: rest) :
    segments (c :: cs) = (c :: s) :: rest := by
  rw [segments, if_neg (by simp [h]), hs]

/-- The segments around a slash are those before it and those after it. -/
theorem segments_append {c : Char} (h : isSlash c = true) (cs more : List Char) :
    segments (cs ++ c :: more) = segments cs ++ segments more := by
  induction cs with
  | nil => exact segments_of_slash h more
  | cons d cs ih =>
    rw [List.cons_append]
    cases hd : isSlash d with
    | true => rw [segments_of_slash hd, segments_of_slash hd, ih, List.cons_append]
    | false =>
      obtain ⟨s, rest, hs⟩ := List.exists_cons_of_ne_nil (segments_ne_nil cs)
      have hmore : segments (cs ++ c :: more) = s :: (rest ++ segments more) := by
        rw [ih, hs, List.cons_append]
      rw [segments_of_not_slash hd hs, segments_of_not_slash hd hmore, List.cons_append]

/-- A text without slashes is one segment. -/
theorem segments_eq_singleton {cs : List Char} (h : ∀ c ∈ cs, isSlash c = false) :
    segments cs = [cs] := by
  induction cs with
  | nil => rfl
  | cons c cs ih =>
    obtain ⟨hc, hcs⟩ := List.forall_mem_cons.mp h
    exact segments_of_not_slash hc (ih hcs)

/-- The last segment is the whole text where that holds no slash, and shorter otherwise. -/
theorem segments_last {cs last : List Char} {before : List (List Char)}
    (h : segments cs = before ++ [last]) :
    (∀ c ∈ cs, isSlash c = false) ∧ last = cs ∨ last.length < cs.length := by
  induction cs generalizing before last with
  | nil =>
    have h : [] ++ [[]] = before ++ [last] := h
    obtain ⟨-, e⟩ := List.append_inj' h rfl
    exact .inl ⟨fun _ hc => absurd hc List.not_mem_nil, (List.cons.inj e).1.symm⟩
  | cons c cs ih =>
    have hlonger : ∀ {before : List (List Char)}, segments cs = before ++ [last] →
        last.length < (c :: cs).length := by
      intro before h
      rw [List.length_cons]
      rcases ih h with ⟨-, rfl⟩ | hlt <;> omega
    cases hc : isSlash c with
    | true =>
      rw [segments_of_slash hc] at h
      rcases List.cons_eq_append_iff.mp h with ⟨-, e⟩ | ⟨before, -, e⟩
      · exact absurd (List.cons.inj e).2.symm (segments_ne_nil cs)
      · exact .inr (hlonger e)
    | false =>
      obtain ⟨s, rest, hs⟩ := List.exists_cons_of_ne_nil (segments_ne_nil cs)
      rw [segments_of_not_slash hc hs] at h
      rcases List.cons_eq_append_iff.mp h with ⟨-, e⟩ | ⟨before, -, rfl⟩
      · obtain ⟨rfl, rfl⟩ := List.cons.inj e
        have hall : segments cs = [] ++ [s] := hs
        rcases ih hall with ⟨hcs, rfl⟩ | hlt
        · exact .inl ⟨List.forall_mem_cons.mpr ⟨hc, hcs⟩, rfl⟩
        · exact .inr (Nat.succ_lt_succ hlt)
      · have hlast : segments cs = (s :: before) ++ [last] := hs
        exact .inr (hlonger hlast)

/-! ## Dot segments -/

/-- What a segment at the end of a path leaves as the last one. -/
def lastSent (s : List Char) : String :=
  if isDoubleDot s || isDot s then "" else encodeSegment s

/-- A segment that stands for itself. -/
def Named (s : List Char) : Prop :=
  isDoubleDot s = false ∧ isDot s = false

instance (s : List Char) : Decidable (Named s) :=
  inferInstanceAs (Decidable (_ ∧ _))

theorem resolve_named {s : List Char} (h : Named s) (above : List String)
    (rest : List (List Char)) :
    resolve above (s :: rest) = resolve (encodeSegment s :: above) rest := by
  rw [resolve, h.1, h.2]
  rfl

/-- Segments after one that stands for itself are resolved below the path so far. -/
theorem resolve_append {s : List Char} (h : Named s) (before more : List (List Char))
    (above : List String) :
    resolve above (before ++ [s] ++ more) = resolve (resolve above (before ++ [s])).reverse more := by
  induction before generalizing above with
  | nil =>
    rw [List.nil_append, List.singleton_append, resolve_named h, resolve_named h, resolve,
      List.reverse_reverse]
  | cons b before ih =>
    have hne : (before ++ [s] ++ more).isEmpty = false ∧ (before ++ [s]).isEmpty = false := by
      simp
    rw [List.cons_append, List.cons_append, resolve, resolve, hne.1, hne.2]
    split
    · exact ih _
    · split
      · exact ih _
      · exact ih _

/-- The last segment of a resolved path. -/
theorem resolve_last (before : List (List Char)) (s : List Char) (above : List String) :
    ∃ path, resolve above (before ++ [s]) = path ++ [lastSent s] := by
  induction before generalizing above with
  | nil =>
    rw [List.nil_append, resolve, lastSent]
    cases isDoubleDot s with
    | true => exact ⟨above.tail.reverse, by simp [resolve]⟩
    | false =>
      cases isDot s with
      | true => exact ⟨above.reverse, by simp [resolve]⟩
      | false => exact ⟨above.reverse, by simp [resolve]⟩
  | cons b before ih =>
    rw [List.cons_append, resolve]
    split
    · exact ih _
    · split
      · exact ih _
      · exact ih _

/-! ## Characters that count -/

/-- The characters of a text that may follow others, without those at its end that do not count. -/
def inner (s : String) : List Char :=
  (s.toList.reverse.dropWhile isOuter).reverse.filter fun c => !isDropped c

theorem isOuter_of_isDropped {c : Char} (h : isDropped c = true) : isOuter c = true := by
  simp only [isDropped, Bool.or_eq_true, beq_iff_eq] at h
  rcases h with (rfl | rfl) | rfl <;> decide

theorem filter_isDropped {cs : List Char} (h : ∀ c ∈ cs, isOuter c = false) :
    cs.filter (fun c => !isDropped c) = cs := by
  refine List.filter_eq_self.mpr fun c hc => ?_
  cases hd : isDropped c with
  | false => rfl
  | true =>
    have hout := h c hc
    rw [isOuter_of_isDropped hd] at hout
    cases hout

/-- What is dropped from the start of a text up to a character that counts. -/
theorem dropWhile_append_cons {p : Char → Bool} {c : Char} (h : p c = false) (cs more : List Char) :
    (cs ++ c :: more).dropWhile p = cs.dropWhile p ++ c :: more := by
  rw [List.dropWhile_append]
  split
  · next he => rw [List.isEmpty_iff.mp he, List.dropWhile_cons_of_neg (by simp [h]), List.nil_append]
  · rfl

theorem dropWhile_eq_self {p : Char → Bool} : ∀ {cs : List Char}, (∀ c ∈ cs, p c = false) →
    cs.dropWhile p = cs
  | [], _ => rfl
  | c :: cs, h => List.dropWhile_cons_of_neg (by simp [h c List.mem_cons_self])

theorem takeWhile_eq_self {p : Char → Bool} {cs : List Char} (h : ∀ c ∈ cs, p c = true) :
    cs.takeWhile p = cs := by
  have happend : (cs ++ []).takeWhile p = cs ++ [].takeWhile p := List.takeWhile_append_of_pos h
  rwa [List.append_nil, List.takeWhile_nil, List.append_nil] at happend

/-- All characters of a text without controls and blanks count. -/
theorem relevant_eq {s : String} (h : ∀ c ∈ s.toList, isOuter c = false) :
    relevant s = s.toList := by
  have hreverse : ∀ c ∈ s.toList.reverse, isOuter c = false := fun c hc =>
    h c (List.mem_reverse.mp hc)
  rw [relevant, dropWhile_eq_self h, dropWhile_eq_self hreverse, List.reverse_reverse,
    filter_isDropped h]

/-- After a text without controls and blanks and a slash, only the end is looked at. -/
theorem relevant_append {s t : String} {cs : List Char} (h : ∀ c ∈ cs, isOuter c = false)
    (hs : s.toList = cs ++ '/' :: t.toList) : relevant s = cs ++ '/' :: inner t := by
  have hstart : (cs ++ '/' :: t.toList).dropWhile isOuter = cs ++ '/' :: t.toList := by
    cases cs with
    | nil => rfl
    | cons c cs => exact List.dropWhile_cons_of_neg (by simp [h c List.mem_cons_self])
  rw [relevant, hs, hstart, List.reverse_append, List.reverse_cons, List.append_assoc,
    List.singleton_append, dropWhile_append_cons rfl, List.reverse_append, List.reverse_cons,
    List.reverse_reverse, List.append_assoc, List.singleton_append, List.filter_append,
    filter_isDropped h]
  rfl

/-! ## What follows a base URL -/

/-- A URL that others start with: it has no query, no fragment, and no controls and blanks. -/
structure Base (s : String) : Prop where
  parses : ∃ url, parse? s = some url
  chars : ∀ c ∈ s.toList, isOuter c = false ∧ endsPath c = false

/-- The characters of a text, gone through one by one. -/
theorem forall_inner {s : String} (h : s.toList.all (fun c => !isOuter c && !endsPath c) = true) :
    ∀ c ∈ s.toList, isOuter c = false ∧ endsPath c = false := by
  simpa using h

theorem takeWhile_append_cons {p : Char → Bool} {c : Char} (h : p c = false) (cs more : List Char) :
    (cs ++ c :: more).takeWhile p = cs.takeWhile p := by
  rw [List.takeWhile_append]
  split
  · next he =>
    rw [List.takeWhile_cons_of_neg (by simp [h]), List.append_nil,
      ((List.takeWhile_prefix p).eq_of_length he)]
  · rfl

/-- The two sides of a separator that is the first one. -/
theorem splitFirst_eq_some {sep : Char} {cs before after : List Char} :
    Text.splitFirst sep cs = some (before, after) ↔
      cs = before ++ sep :: after ∧ ∀ c ∈ before, (c != sep) = true := by
  rw [Text.splitFirst]
  constructor
  · intro h
    have hsplit := List.takeWhile_append_dropWhile (p := (· != sep)) (l := cs)
    have hhead := List.head?_dropWhile_not (· != sep) cs
    split at h
    · cases h
    · next x rest hdrop =>
      cases h
      rw [hdrop] at hhead hsplit
      obtain rfl : x = sep := by simpa using hhead
      exact ⟨hsplit.symm, List.all_eq_true.mp List.all_takeWhile⟩
  · rintro ⟨rfl, h⟩
    have hstop : (sep != sep) = false := by simp
    rw [takeWhile_append_cons (p := (· != sep)) hstop, takeWhile_eq_self h,
      List.dropWhile_append_of_pos h, List.dropWhile_cons_of_neg (by simp)]

/-- The scheme of a URL stands before its first colon. -/
theorem scheme?_eq_some {cs rest : List Char} {secure : Bool} :
    scheme? cs = some (secure, rest) ↔
      ∃ scheme, cs = scheme ++ ':' :: rest ∧ (∀ c ∈ scheme, (c != ':') = true) ∧
        (String.ofList scheme).toLower = if secure then "https" else "http" := by
  rw [scheme?]
  constructor
  · intro h
    split at h
    · cases h
    · next scheme after hsplit =>
      obtain ⟨hcs, hscheme⟩ := splitFirst_eq_some.mp hsplit
      split at h
      · next hname =>
        cases h
        exact ⟨scheme, hcs, hscheme, hname⟩
      · next hname =>
        cases h
        exact ⟨scheme, hcs, hscheme, hname⟩
      · cases h
  · rintro ⟨scheme, hcs, hscheme, hname⟩
    rw [splitFirst_eq_some.mpr ⟨hcs, hscheme⟩]
    simp only [hname]
    cases secure <;> rfl

theorem scheme?_append {cs rest : List Char} {secure : Bool} (h : scheme? cs = some (secure, rest))
    (more : List Char) : scheme? (cs ++ more) = some (secure, rest ++ more) := by
  obtain ⟨scheme, rfl, hscheme, hname⟩ := scheme?_eq_some.mp h
  exact scheme?_eq_some.mpr ⟨scheme, by simp, hscheme, hname⟩

/-- The characters that end the host. -/
def stops (c : Char) : Bool :=
  isSlash c || endsPath c

/-- The host and what follows it, where the scheme is one of the web. -/
theorem parse?_of_scheme {s : String} {secure : Bool} {rest : List Char} {authority : String}
    (hs : scheme? (relevant s) = some (secure, rest))
    (ha : authority? secure ((rest.dropWhile isSlash).takeWhile fun c => !stops c) =
      some authority) :
    ∃ query, parse? s = some ⟨secure, authority, resolve [] (segments
      (((rest.dropWhile isSlash).dropWhile fun c => !stops c).takeWhile
        fun c => !endsPath c).tail), query⟩ := by
  simp only [parse?, hs, Option.bind_eq_bind, Option.bind_some]
  simp only [stops] at ha
  rw [ha, Option.bind_some]
  simp only [stops]
  generalize ((rest.dropWhile isSlash).dropWhile fun c => !(isSlash c || endsPath c)).takeWhile
    (fun c => !endsPath c) = path
  cases path <;> exact ⟨_, rfl⟩

theorem scheme_of_parse? {s : String} {url : Url} (h : parse? s = some url) :
    ∃ secure rest authority, scheme? (relevant s) = some (secure, rest) ∧
      authority? secure ((rest.dropWhile isSlash).takeWhile fun c => !stops c) =
        some authority := by
  simp only [parse?, Option.bind_eq_bind, Option.bind_eq_some_iff] at h
  obtain ⟨⟨secure, rest⟩, hs, authority, ha, -⟩ := h
  exact ⟨secure, rest, authority, hs, ha⟩

/-- The segments of a path that starts with a slash and goes on after another one. -/
theorem segments_tail (cs : List Char) (h : ∀ c, cs.head? = some c → isSlash c = true) :
    ∃ lead, ∀ more, segments (cs ++ '/' :: more).tail = lead ++ segments more := by
  cases cs with
  | nil => exact ⟨[], fun more => rfl⟩
  | cons c rest => exact ⟨segments rest, fun more => segments_append rfl rest more⟩

/-- No host is empty. -/
theorem host_isEmpty {secure : Bool} {rest : List Char} {authority : String}
    (ha : authority? secure ((rest.dropWhile isSlash).takeWhile fun c => !stops c) =
      some authority) : (rest.dropWhile isSlash).isEmpty = false := by
  cases hrest : rest.dropWhile isSlash with
  | nil =>
    rw [hrest] at ha
    cases ha
  | cons c cs => rfl

/-- What follows a base URL and a slash is read as a path below it, up to what ends the path. -/
theorem parse_extended {base : String} (h : Base base) :
    ∃ secure authority lead, ∀ {s more}, relevant s = base.toList ++ '/' :: more →
      ∃ query, parse? s = some ⟨secure, authority,
        resolve [] (lead ++ segments (more.takeWhile fun c => !endsPath c)), query⟩ := by
  obtain ⟨url, hurl⟩ := h.parses
  obtain ⟨secure, rest, authority, hs, ha⟩ := scheme_of_parse? hurl
  rw [relevant_eq fun c hc => (h.chars c hc).1] at hs
  have hne := host_isEmpty ha
  -- the base ends in its own path, with a slash before each segment
  let path := (rest.dropWhile isSlash).dropWhile fun c => !stops c
  have hpath : ∀ c ∈ path, endsPath c = false := by
    intro c hc
    obtain ⟨scheme, hbase, -⟩ := scheme?_eq_some.mp hs
    have hrest : c ∈ rest :=
      (List.dropWhile_sublist _).subset ((List.dropWhile_sublist _).subset hc)
    have hmem : c ∈ base.toList := by
      rw [hbase]
      exact List.mem_append_right _ (List.mem_cons_of_mem _ hrest)
    exact (h.chars c hmem).2
  obtain ⟨lead, hlead⟩ := segments_tail path fun c hc => by
    have hstop := List.head?_dropWhile_not (fun c => !stops c) (rest.dropWhile isSlash)
    rw [show ((rest.dropWhile isSlash).dropWhile fun c => !stops c) = path from rfl, hc] at hstop
    have hend := hpath c (List.mem_of_head? hc)
    simpa [stops, hend] using hstop
  refine ⟨secure, authority, lead, fun {s more} hmore => ?_⟩
  have hscheme := scheme?_append hs ('/' :: more)
  rw [← hmore] at hscheme
  have hhost : ((rest ++ '/' :: more).dropWhile isSlash).takeWhile (fun c => !stops c) =
      (rest.dropWhile isSlash).takeWhile fun c => !stops c := by
    rw [List.dropWhile_append, hne]
    exact takeWhile_append_cons rfl _ _
  obtain ⟨query, hparse⟩ := parse?_of_scheme hscheme (hhost ▸ ha)
  refine ⟨query, hparse.trans ?_⟩
  rw [List.dropWhile_append, hne, if_neg Bool.false_ne_true, dropWhile_append_cons rfl,
    List.takeWhile_append_of_pos fun c hc => by simp [hpath c hc],
    List.takeWhile_cons_of_pos rfl]
  exact congrArg (fun l => some (Url.mk secure authority (resolve [] l) query)) (hlead _)

/-! ## Slashes at the end -/

/-- What is dropped from the end of a text is one character, any number of times. -/
theorem dropTrailing_append (c : Char) (s : String) :
    ∃ dropped, s.toList = (Text.dropTrailing c s).toList ++ dropped ∧ ∀ d ∈ dropped, d = c := by
  refine ⟨(s.toList.reverse.takeWhile (· == c)).reverse, ?_, fun d hd => ?_⟩
  · rw [Text.dropTrailing, String.toList_ofList, ← List.reverse_append,
      List.takeWhile_append_dropWhile, List.reverse_reverse]
  · simpa using List.all_eq_true.mp List.all_takeWhile d (List.mem_reverse.mp hd)

/-- A separator that is not in what follows is in what comes before. -/
theorem exists_of_append_eq {sep : Char} {front after kept dropped : List Char}
    (h : front ++ sep :: after = kept ++ dropped) (hd : sep ∉ dropped) :
    ∃ rest, kept = front ++ sep :: rest ∧ after = rest ++ dropped := by
  rcases List.append_eq_append_iff.mp h with ⟨more, hkept, hmore⟩ | ⟨more, -, hdropped⟩
  · rcases List.cons_eq_append_iff.mp hmore with ⟨-, hdropped⟩ | ⟨rest, rfl, hafter⟩
    · exact absurd (hdropped ▸ List.mem_cons_self) hd
    · exact ⟨rest, hkept, hafter⟩
  · exact absurd (hdropped ▸ List.mem_append_right more List.mem_cons_self) hd

/-- Slashes after a host that is there do not belong to it. -/
theorem host_append {rest slashes : List Char} (hs : ∀ c ∈ slashes, c = '/')
    (hne : ((rest ++ slashes).dropWhile isSlash).isEmpty = false) :
    ((rest ++ slashes).dropWhile isSlash).takeWhile (fun c => !stops c) =
      (rest.dropWhile isSlash).takeWhile fun c => !stops c := by
  have hslash : ∀ c ∈ slashes, isSlash c = true := fun c hc => by
    rw [hs c hc]
    rfl
  have hall : slashes.dropWhile isSlash = [] := by
    have happend : (slashes ++ []).dropWhile isSlash = [].dropWhile isSlash :=
      List.dropWhile_append_of_pos hslash
    rwa [List.append_nil, List.dropWhile_nil] at happend
  rw [List.dropWhile_append] at hne ⊢
  cases hrest : (rest.dropWhile isSlash).isEmpty with
  | true =>
    rw [hrest, if_pos rfl, hall] at hne
    cases hne
  | false =>
    rw [if_neg Bool.false_ne_true]
    cases slashes with
    | nil => rw [List.append_nil]
    | cons c more =>
      refine takeWhile_append_cons ?_ _ _
      rw [stops, hslash c List.mem_cons_self]
      rfl

/-- A base URL without the slashes at its end is one too: its host ends in none of them. -/
theorem Base.dropTrailing {base : String} (h : Base base) : Base (Text.dropTrailing '/' base) := by
  obtain ⟨slashes, hsplit, hslashes⟩ := dropTrailing_append '/' base
  have hchars : ∀ c ∈ (Text.dropTrailing '/' base).toList,
      isOuter c = false ∧ endsPath c = false :=
    fun c hc => h.chars c (by rw [hsplit]; exact List.mem_append_left _ hc)
  refine ⟨?_, hchars⟩
  obtain ⟨url, hurl⟩ := h.parses
  obtain ⟨secure, rest, authority, hs, ha⟩ := scheme_of_parse? hurl
  rw [relevant_eq fun c hc => (h.chars c hc).1] at hs
  obtain ⟨scheme, hbase, hscheme, hname⟩ := scheme?_eq_some.mp hs
  -- the colon is none of the slashes
  have hcolon : ':' ∉ slashes := fun hmem => by cases hslashes _ hmem
  obtain ⟨kept, hkept, rfl⟩ := exists_of_append_eq (hbase.symm.trans hsplit) hcolon
  have hkept' : scheme? (relevant (Text.dropTrailing '/' base)) = some (secure, kept) := by
    rw [relevant_eq fun c hc => (hchars c hc).1]
    exact scheme?_eq_some.mpr ⟨scheme, hkept, hscheme, hname⟩
  have hhost := host_append hslashes (host_isEmpty ha)
  obtain ⟨query, hparse⟩ := parse?_of_scheme hkept' (hhost ▸ ha)
  exact ⟨_, hparse⟩

/-! ## The URL of an object -/

/-- The path of a collection below a base URL. -/
structure Collection (path : String) : Prop where
  chars : ∀ c ∈ path.toList, isOuter c = false ∧ endsPath c = false
  named : ∃ inside before last, path.toList = '/' :: inside ∧
    segments inside = before ++ [last] ∧ Named last

/-- An id of which no part has a meaning of its own in a URL. -/
structure Plain (id : String) : Prop where
  /-- No character separates segments, ends the path or is dropped. -/
  chars : ∀ c ∈ id.toList, isSlash c = false ∧ endsPath c = false ∧ isDropped c = false
  /-- The id does not end in a control or a blank, which would be dropped. -/
  ending : ∀ c, id.toList.getLast? = some c → isOuter c = false
  /-- The id is no dot segment. -/
  named : Named id.toList
  /-- No percent sign stands before two hexadecimal digits. -/
  unescaped : ¬ Percent.Escaped id.toList

/-- The characters of an id that are read as the path. -/
def asPath (id : String) : List Char :=
  (inner id).takeWhile fun c => !endsPath c

theorem asPath_of_plain {id : String} (h : Plain id) : asPath id = id.toList := by
  have hend : id.toList.reverse.dropWhile isOuter = id.toList.reverse := by
    cases hr : id.toList.reverse with
    | nil => rfl
    | cons c cs =>
      have hlast : id.toList.getLast? = some c := by rw [← List.head?_reverse, hr]; rfl
      exact List.dropWhile_cons_of_neg (by simp [h.ending c hlast])
  have hkept : id.toList.filter (fun c => !isDropped c) = id.toList :=
    List.filter_eq_self.mpr fun c hc => by simp [(h.chars c hc).2.2]
  rw [asPath, inner, hend, List.reverse_reverse, hkept]
  exact takeWhile_eq_self fun c hc => by simp [(h.chars c hc).2.1]

theorem length_inner (id : String) : (inner id).length ≤ id.toList.length := by
  have hdrop := (List.dropWhile_sublist isOuter (l := id.toList.reverse)).length_le
  have hfilter := List.length_filter_le (fun c => !isDropped c)
    (id.toList.reverse.dropWhile isOuter).reverse
  rw [List.length_reverse] at hdrop hfilter
  exact Nat.le_trans hfilter hdrop

theorem length_asPath (id : String) : (asPath id).length ≤ id.toList.length :=
  Nat.le_trans (List.takeWhile_prefix _).length_le (length_inner id)

/-- Where every character is read as the path, none has another meaning. -/
theorem of_length_asPath {id : String} (h : id.toList.length ≤ (asPath id).length) :
    asPath id = id.toList ∧ (∀ c ∈ id.toList, endsPath c = false ∧ isDropped c = false) ∧
      ∀ c, id.toList.getLast? = some c → isOuter c = false := by
  have hpath : asPath id = inner id :=
    (List.takeWhile_prefix _).eq_of_length (Nat.le_antisymm (List.takeWhile_prefix _).length_le
      (Nat.le_trans (length_inner id) h))
  have htrim : id.toList.reverse.dropWhile isOuter = id.toList.reverse := by
    refine (List.dropWhile_sublist isOuter).eq_of_length_le ?_
    have hfilter := List.length_filter_le (fun c => !isDropped c)
      (id.toList.reverse.dropWhile isOuter).reverse
    rw [hpath] at h
    rw [List.length_reverse] at hfilter ⊢
    exact Nat.le_trans h hfilter
  have hinner : inner id = id.toList.filter fun c => !isDropped c := by
    rw [inner, htrim, List.reverse_reverse]
  have hkept : id.toList.filter (fun c => !isDropped c) = id.toList := by
    refine List.filter_sublist.eq_of_length_le ?_
    rw [← hinner, ← hpath]
    exact h
  refine ⟨hpath.trans (hinner.trans hkept), fun c hc => ⟨?_, ?_⟩, fun c hc => ?_⟩
  · have hmem : c ∈ asPath id := by rwa [hpath, hinner, hkept]
    simpa using List.all_eq_true.mp List.all_takeWhile c hmem
  · simpa using List.filter_eq_self.mp hkept c hc
  · have hhead := List.head?_dropWhile_not isOuter id.toList.reverse
    rw [htrim, List.head?_reverse, hc] at hhead
    simpa using hhead

/-- The segment after those of a collection decodes to the id exactly where the id is plain. -/
theorem sent_iff {id : String} (hid : id ≠ "") (path : List String) :
    (∃ segment, resolve path.reverse (segments (asPath id)) = path ++ [segment] ∧
      Percent.decode segment = id) ↔ Plain id := by
  constructor
  · rintro ⟨segment, hpath, hdecode⟩
    have hsplit := (List.dropLast_concat_getLast (segments_ne_nil (asPath id))).symm
    generalize (segments (asPath id)).dropLast = before at hsplit
    generalize (segments (asPath id)).getLast _ = last at hsplit
    obtain ⟨above, habove⟩ := resolve_last before last path.reverse
    rw [hsplit, habove] at hpath
    obtain rfl : lastSent last = segment := List.singleton_inj.mp (List.append_inj' hpath rfl).2
    have hnamed : Named last := by
      refine Bool.or_eq_false_iff.mp (Bool.eq_false_iff.mpr fun hdot => hid ?_)
      rw [lastSent, if_pos hdot] at hdecode
      exact hdecode.symm
    have hsegment : lastSent last = encodeSegment last := by
      rw [lastSent, hnamed.1, hnamed.2]
      rfl
    rw [hsegment] at hdecode
    -- no character is lost on the way from the id to what is read back
    obtain ⟨hle, hlt⟩ := Percent.length_decode_encode last
    rw [← encodeSegment, hdecode] at hle hlt
    have hall := length_asPath id
    rcases segments_last hsplit with ⟨hslash, rfl⟩ | hshort
    · obtain ⟨heq, hchars, hending⟩ := of_length_asPath hle
      rw [heq] at hslash hnamed hlt
      exact ⟨fun c hc => ⟨hslash c hc, hchars c hc⟩, hending, hnamed,
        fun hescaped => Nat.lt_irrefl _ (hlt hescaped)⟩
    · omega
  · intro h
    refine ⟨encodeSegment id.toList, ?_, ?_⟩
    · rw [asPath_of_plain h, segments_eq_singleton fun c hc => (h.chars c hc).1,
        resolve_named h.named, resolve, List.reverse_cons, List.reverse_reverse]
    · exact (Percent.decode_encode h.unescaped).trans String.ofList_toList

/-- **The URL of an object.** For every collection below a base URL and every id that is not empty,
the URL of the object can be read, and it has the host of the collection. Its path is the path of
the collection and one segment more, which decodes to the id, exactly where the id is plain. -/
theorem addressed_iff {base path id : String} (hb : Base base) (hp : Collection path)
    (hid : id ≠ "") :
    ∃ collection target, parse? (base ++ path) = some collection ∧
      parse? (base ++ path ++ "/" ++ id) = some target ∧
      target.secure = collection.secure ∧ target.authority = collection.authority ∧
      ((∃ segment, target.path = collection.path ++ [segment] ∧ Percent.decode segment = id) ↔
        Plain id) := by
  obtain ⟨secure, authority, lead, hparse⟩ := parse_extended hb
  obtain ⟨inside, before, last, hpath, hsegments, hnamed⟩ := hp.named
  have hinside : ∀ c ∈ inside, endsPath c = false := fun c hc =>
    (hp.chars c (by rw [hpath]; exact List.mem_cons_of_mem _ hc)).2
  have hchars : ∀ c ∈ base.toList ++ path.toList, isOuter c = false := by
    intro c hc
    rcases List.mem_append.mp hc with hc | hc
    · exact (hb.chars c hc).1
    · exact (hp.chars c hc).1
  have hcollection : relevant (base ++ path) = base.toList ++ '/' :: inside := by
    rw [relevant_eq (by rwa [String.toList_append]), String.toList_append, hpath]
  have htarget : relevant (base ++ path ++ "/" ++ id) =
      base.toList ++ '/' :: (inside ++ '/' :: inner id) := by
    rw [relevant_append (t := id) hchars (by simp), hpath, List.append_assoc, List.cons_append]
  obtain ⟨query, hc⟩ := hparse hcollection
  obtain ⟨query', ht⟩ := hparse htarget
  refine ⟨_, _, hc, ht, rfl, rfl, ?_⟩
  -- the path of the object goes on where that of the collection ends
  have hpos : ∀ c ∈ inside, (!endsPath c) = true := fun c hc => by simp [hinside c hc]
  have hsent : resolve [] (lead ++ segments ((inside ++ '/' :: inner id).takeWhile
        fun c => !endsPath c)) =
      resolve (resolve [] (lead ++ segments (inside.takeWhile fun c => !endsPath c))).reverse
        (segments (asPath id)) := by
    rw [List.takeWhile_append_of_pos hpos, List.takeWhile_cons_of_pos rfl, takeWhile_eq_self hpos,
      segments_append rfl, hsegments, ← List.append_assoc,
      ← List.append_assoc]
    exact resolve_append hnamed (lead ++ before) (segments (asPath id)) []
  rw [hsent]
  exact sent_iff hid _

end ResourceOperator.Net.Url
