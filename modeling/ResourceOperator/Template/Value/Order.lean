import ResourceOperator.Template.Value

/-!
# Equality and order of values

`same` is equality: truth values and numbers are equal as numbers, and lists as the items they
visit. `compare` is a total order in which values of different kinds compare by kind. Maps are built
and searched by it.
-/

namespace ResourceOperator.Template

/-- The order of an integer and a number. -/
def compareInteger (i : Int) : Extended → Ordering
  | .nan => .lt
  | .infinite n => if n then .gt else .lt
  | .finite x =>
    let (a, b) := x.ratio
    let right : Int := if x.negative then -(a : Int) else a
    Ord.compare (i * b) right

/-- The order of numbers, with not-a-number after all others. -/
def compareDecimals (x y : Extended) : Ordering :=
  match x.compare? y with
  | some o => o
  | none => match x, y with
    | .nan, .nan => .eq
    | .nan, _ => .gt
    | _, _ => .lt

/-- The order of texts by code points. -/
def compareTexts (a b : String) : Ordering :=
  if a < b then .lt else if a = b then .eq else .gt

namespace Value

/-- Numbers and truth values as numbers. -/
def sameNumbers : Value → Value → Option Bool
  | .float x, .float y => some (x.same y)
  | .float x, v | v, .float x => v.integer?.map fun i => match x with
    | .nan => false
    | x => compareInteger i x == .eq
  | v, w => match v.integer?, w.integer? with
    | some i, some j => some (i == j)
    | _, _ => Option.none

mutual

/-- Equality of values. -/
def same : Value → Value → Bool
  | .undefined _, w => w.kind == .undefined
  | .none, w => w.kind == .none
  | .bool b, w => (sameNumbers (.bool b) w).getD false
  | .int i, w => (sameNumbers (.int i) w).getD false
  | .float x, w => (sameNumbers (.float x) w).getD false
  | .string s _, w => w.text? == some s
  | .list _ items, w => match w.sequence? with
    | some others => sameItems items others
    | Option.none => false
  | .group key items, w => match w.sequence? with
    | some [key', items'] => same key key' && match items'.sequence? with
      | some others => sameItems items others
      | Option.none => false
    | _ => false
  | .map entries, w => match w.entries? with
    | some others => sameEntries entries others
    | Option.none => false
  | .named entries, w => match w.entries? with
    | some others => sameNamed entries others
    | Option.none => false
  | .loop i _ d _ _ c, .loop j _ e _ _ c' => i == j && d == e && c == c'
  | .callable n _ c, .callable m _ c' => n == m && c == c'
  | .function n, .function m => n == m
  | .space c, .space c' => c == c'
  | _, _ => false

/-- Equality of item lists. -/
def sameItems : List Value → List Value → Bool
  | [], [] => true
  | x :: xs, y :: ys => same x y && sameItems xs ys
  | _, _ => false

/-- Equality of entries in key order. -/
def sameEntries : List (Value × Value) → List (Value × Value) → Bool
  | [], [] => true
  | (k, v) :: xs, (l, w) :: ys => same k l && same v w && sameEntries xs ys
  | _, _ => false

/-- Equality of named entries and entries. -/
def sameNamed : List (String × Value) → List (Value × Value) → Bool
  | [], [] => true
  | (k, v) :: xs, (l, w) :: ys => l.text? == some k && same v w && sameNamed xs ys
  | _, _ => false

end

/-- The order of numbers and truth values as numbers. -/
def compareNumbers : Value → Value → Ordering
  | .float x, .float y => compareDecimals x y
  | .float x, w => ((w.integer?.map fun i => compareInteger i x).getD .eq).swap
  | v, .float y => (v.integer?.map fun i => compareInteger i y).getD .eq
  | v, w => Ord.compare (v.integer?.getD 0) (w.integer?.getD 0)

mutual

/-- The order of values. -/
def compare : Value → Value → Ordering
  | .list isLazy items, w =>
    (Ord.compare (Value.list isLazy items).kind.rank w.kind.rank).then
      (compareItems items (w.sequence?.getD []))
  | .group key items, w =>
    (Ord.compare (Value.group key items).kind.rank w.kind.rank).then
      (match w.sequence?.getD [] with
        | [] => .gt
        | k :: rest => (compare key k).then (match rest with
          | [] => .gt
          | other :: _ => compareItems items (other.sequence?.getD [])))
  | .map entries, w =>
    (Ord.compare Kind.map.rank w.kind.rank).then (compareEntries entries (w.entries?.getD []))
  | .named entries, w =>
    (Ord.compare Kind.map.rank w.kind.rank).then (compareNamed entries (w.entries?.getD []))
  | .string s _, w =>
    (Ord.compare Kind.string.rank w.kind.rank).then (compareTexts s (w.text?.getD ""))
  | v, w =>
    (Ord.compare v.kind.rank w.kind.rank).then
      (if v.kind == .bool || v.kind == .number then compareNumbers v w else .eq)

/-- The order of item lists, item by item. -/
def compareItems : List Value → List Value → Ordering
  | [], [] => .eq
  | [], _ :: _ => .lt
  | _ :: _, [] => .gt
  | x :: xs, y :: ys => (compare x y).then (compareItems xs ys)

/-- The order of entries, key before value. -/
def compareEntries : List (Value × Value) → List (Value × Value) → Ordering
  | [], [] => .eq
  | [], _ :: _ => .lt
  | _ :: _, [] => .gt
  | (k, v) :: xs, (l, w) :: ys => ((compare k l).then (compare v w)).then (compareEntries xs ys)

/-- The order of named entries and entries. -/
def compareNamed : List (String × Value) → List (Value × Value) → Ordering
  | [], [] => .eq
  | [], _ :: _ => .lt
  | _ :: _, [] => .gt
  | (k, v) :: xs, (l, w) :: ys =>
    ((compareTexts k (l.text?.getD "")).then (compare v w)).then (compareNamed xs ys)

end

/-- Puts an entry into ascending entries; an equal key keeps its place and gets the new value. -/
def insertEntry (key value : Value) : List (Value × Value) → List (Value × Value)
  | [] => [(key, value)]
  | (k, v) :: rest => match compare key k with
    | .lt => (key, value) :: (k, v) :: rest
    | .eq => (k, value) :: rest
    | .gt => (k, v) :: insertEntry key value rest

/-- A map of entries in any order; of equal keys the later value counts. -/
def ofEntries (entries : List (Value × Value)) : Value :=
  .map (entries.foldl (fun es (k, v) => insertEntry k v es) [])

/-- The value of a key. -/
def under? (key : Value) (entries : List (Value × Value)) : Option Value :=
  (entries.find? fun (k, _) => compare key k == .eq).map (·.2)

/-- An attribute of a loop. -/
def loopAttribute? (index length depth : Nat) (previous next : Option Value) (name : String) :
    Option Value :=
  match name with
  | "index0" => some (ofNat index)
  | "index" => some (ofNat (index + 1))
  | "length" => some (ofNat length)
  | "revindex" => some (ofNat (length - index))
  | "revindex0" => some (ofNat (length - index - 1))
  | "first" => some (.bool (index == 0))
  | "last" => some (.bool (length == 0 || index == length - 1))
  | "depth" => some (ofNat (depth + 1))
  | "depth0" => some (ofNat depth)
  | "previtem" => some (previous.getD missing)
  | "nextitem" => some (next.getD missing)
  | _ => Option.none

/-- The value under a key or an index. -/
def item? (key : Value) : Value → Option Value
  | .string s _ => do
    let i ← position? s.length key
    (s.toList[i]?).map fun c => ofChars [c]
  | .list _ items => do
    let i ← position? items.length key
    items[i]?
  | .group k items =>
    match key.text? with
    | some "grouper" => some k
    | some "list" => some (ofList items)
    | _ => do
      let i ← position? 2 key
      (groupItems k items)[i]?
  | .map entries => under? key entries
  | .named entries => key.text?.bind fun name => entries.lookup name
  | .loop index length depth previous next _ =>
    key.text?.bind (loopAttribute? index length depth previous next)
  | _ => Option.none

/-- The value of an attribute; texts have none. -/
def attribute? (name : String) (v : Value) : Option Value :=
  if v.isObject then item? (ofText name) v else Option.none

/-- The value under a key; an undefined value has none, and a missing one is undefined. -/
def item (key : Value) (v : Value) : Except Failure Value :=
  if v.isUndefined then .error .undefinedValue else .ok ((item? key v).getD missing)

end Value

end ResourceOperator.Template
