import ResourceOperator.Template.Test
import ResourceOperator.Template.Token
import ResourceOperator.Text.Search

/-!
# Filters

The functions that a bar applies to a value, by name. Filters that pick or change items apply tests
and other filters by name.
-/

namespace ResourceOperator.Template.Filter

open Arguments

/-- A filter: its result for a value and further arguments. -/
abbrev Function := List Value → Except Failure Value

/-- A filter of a text. -/
def ofText (f : String → String) : Function := fun args => do
  let s ← readAt asText args 0
  atMost 1 args
  return Value.ofText (f s)

/-- A filter of one value. -/
def ofValue (f : Value → Except Failure Value) : Function := fun args => do
  let v ← value args 0
  atMost 1 args
  f v

/-- The first letter of each word in upper case, the others in lower case. -/
def titleCase (s : String) : String :=
  let step := fun (state : List Char × Bool) (c : Char) =>
    if Text.isPunctuation c || Text.isBlank c then (state.1 ++ [c], true)
    else if state.2 then (state.1 ++ Text.upperChar c, false)
    else (state.1 ++ Text.lowerChar c, false)
  String.ofList (s.toList.foldl step ([], true)).1

/-- A text without the given characters around it. -/
def trimOf (chars : List Char) (s : String) : String :=
  let inner := s.toList.dropWhile chars.contains
  String.ofList (inner.reverse.dropWhile chars.contains).reverse

/-- A text with every occurrence of another replaced. -/
def replace : Function := fun args => do
  let s ← readAt asText args 0
  let old ← readAt asText args 1
  let new ← readAt asText args 2
  atMost 3 args
  return Value.ofChars (Text.replaceAll old.toList new.toList s.toList)

/-- A text without blanks, or without given characters, around it. -/
def trim : Function := fun args => do
  let s ← readAt asText args 0
  let chars ← readAt? asText args 1
  atMost 2 args
  return Value.ofText (match chars with
    | none => Text.trim s
    | some cs => trimOf cs.toList s)

/-- The number of characters, items or entries. -/
def length : Function := ofValue fun v =>
  match v.length? with
  | some n => .ok (Value.ofNat n)
  | none => .error .invalidOperation

/-- The order in which items are sorted: texts without regard to case, unless it counts. -/
def order (caseSensitive : Bool) (v w : Value) : Ordering :=
  match v.text?, w.text? with
  | some s, some t =>
    if caseSensitive then v.compare w else compareTexts s.toLower t.toLower
  | _, _ => v.compare w

/-- Items in order, equal ones as they were. -/
def sorted (keyOf : Value → Value) (caseSensitive : Bool) (xs : List Value) : List Value :=
  xs.mergeSort fun v w => order caseSensitive (keyOf v) (keyOf w) != .gt

/-- The value at a path, or another where there is none. -/
def atPathOr (default : Value) (path : String) (v : Value) : Value :=
  match v.atPath path with
  | .ok w => if w.isUndefined then default else w
  | .error _ => default

/-- Sorted items. -/
def sort : Function := fun args => do
  let (args, names) := split args
  let v ← value args 0
  let xs ← operandItems v
  let caseSensitive := (← byName? asBool names "case_sensitive").getD false
  let path ← byName? onlyText names "attribute"
  let keyOf := fun (v : Value) => match path with
    | some p => atPathOr Value.missing p v
    | none => v
  let ys := sorted keyOf caseSensitive xs
  let reversed := (← byName? asBool names "reverse").getD false
  onlyNames ["case_sensitive", "attribute", "reverse"] names
  atMost 1 args
  return Value.ofList (if reversed then ys.reverse else ys)

/-- The entries of a map as sorted pairs. -/
def dictsort : Function := fun args => do
  let (args, names) := split args
  let v ← value args 0
  match v.entries? with
  | none => throw .invalidOperation
  | some entries =>
    let byValue ← match ← byName? onlyText names "by" with
      | none | some "key" => pure false
      | some "value" => pure true
      | some _ => throw .invalidOperation
    let caseSensitive := (← byName? asBool names "case_sensitive").getD false
    let pairs := entries.map fun (k, v) => Value.ofList [k, v]
    let keyOf := fun (pair : Value) => match pair.sequence? with
      | some [k, v] => if byValue then v else k
      | _ => pair
    let ys := sorted keyOf caseSensitive pairs
    let reversed := (← byName? asBool names "reverse").getD false
    onlyNames ["by", "case_sensitive", "reverse"] names
    atMost 1 args
    return Value.ofList (if reversed then ys.reverse else ys)

/-- The entries of a map as pairs. -/
def items : Function := ofValue fun v =>
  match v.entries? with
  | some entries => .ok (Value.ofList (entries.map fun (k, v) => Value.ofList [k, v]))
  | none => .error .invalidOperation

/-- The reverse of a text, a list or the keys of a map. -/
def reverse : Function := ofValue fun v =>
  match v with
  | .undefined _ | .none => .ok v
  | .string s _ => .ok (Value.ofChars s.toList.reverse)
  | v => match v.iterate? with
    | some xs => .ok (.list true xs.reverse)
    | none => .error .invalidOperation

/-- The texts of items, joined. A joiner stands before an item once there is any text. -/
def joinTexts (joiner : String) (xs : List Value) : String :=
  xs.foldl (fun s x => (if s.isEmpty then s else s ++ joiner) ++ x.text) ""

/-- The texts of items, joined by a text. -/
def join : Function := fun args => do
  let v ← value args 0
  let joiner ← readAt? asText args 1
  atMost 2 args
  if v.isUndefined || v.kind == .none then return Value.ofText ""
  return Value.ofText (joinTexts (joiner.getD "") (← operandItems v))

/-- The pieces of a text between separators or blanks. -/
def splitText : Function := fun args => do
  let s ← readAt onlyText args 0
  let separator ← readAt? onlyText args 1
  let limit ← readAt? (asInteger (-9223372036854775808) 9223372036854775807) args 2
  atMost 3 args
  let pieces := match separator, limit.filter (0 ≤ ·) with
    | none, none => Text.words Text.isBlank s.toList
    | some t, none => Text.splitAll t.toList s.toList
    | none, some n => splitBlanks n.toNat s.toList
    | some t, some n => Text.splitFew t.toList s.toList (n.toNat + 1)
  return .list true (pieces.map Value.ofChars)
where
  /-- The pieces at the first blanks. -/
  splitBlanks : Nat → List Char → List (List Char)
    | 0, cs => [cs]
    | n + 1, cs => match cs.dropWhile fun c => !Text.isBlank c with
      | [] => [cs]
      | _ :: rest => cs.takeWhile (fun c => !Text.isBlank c) :: splitBlanks n rest

/-- The lines of a text. -/
def lines : Function := fun args => do
  let s ← readAt onlyText args 0
  atMost 1 args
  return .list true ((Text.lines s.toList).map Value.ofChars)

/-- Another value in the place of an undefined one, or of any that does not count as true. -/
def default : Function := fun args => do
  let v ← value args 0
  let other ← readAt? anyValue args 1
  let lax ← readAt? asBool args 2
  atMost 3 args
  if v.isUndefined || (lax.getD false && !v.isTrue) then return other.getD (Value.ofText "")
  return v

/-- A number rounded to some places. -/
def round : Function := fun args => do
  let v ← value args 0
  let places ← readAt? (asInteger (-2147483648) 2147483647) args 1
  atMost 2 args
  match v with
  | .int _ => return v
  | .float x =>
    let scale := Extended.powerOfTen (places.getD 0)
    return .float ((scale.mul x).round.div scale)
  | _ => throw .invalidOperation

/-- The absolute value of a number. -/
def abs : Function := ofValue fun v =>
  match v with
  | .int i => Value.checked i.natAbs
  | .float x => .ok (.float x.abs)
  | _ => .error .invalidOperation

/-- Reads an integer with an optional sign. -/
def readInteger? (cs : List Char) : Option Int :=
  let (negative, digits) := match cs with
    | '-' :: ds => (true, ds)
    | '+' :: ds => (false, ds)
    | ds => (false, ds)
  if digits.isEmpty || !digits.all Char.isDigit then none
  else
    let n : Int := Token.natValue 10 digits
    let i := if negative then -n else n
    if Value.minInteger ≤ i ∧ i ≤ Value.maxInteger then some i else none

/-- Reads a decimal number with an optional sign, fraction and exponent. -/
def readDecimal? (cs : List Char) : Option Extended :=
  let (negative, body) := match cs with
    | '-' :: ds => (true, ds)
    | '+' :: ds => (false, ds)
    | ds => (false, ds)
  let signed := fun (x : Extended) => if negative then x.neg else x
  let word := (String.ofList body).toLower
  if word == "inf" || word == "infinity" then some (.infinite negative)
  else if word == "nan" then some .nan
  else
    let whole := body.takeWhile Char.isDigit
    let rest := body.dropWhile Char.isDigit
    let (fraction, rest) := match rest with
      | '.' :: rest => (rest.takeWhile Char.isDigit, rest.dropWhile Char.isDigit)
      | rest => ([], rest)
    if whole.isEmpty && fraction.isEmpty then none
    else
      let digits := Token.natValue 10 (whole ++ fraction)
      let places : Int := fraction.length
      match rest with
      | [] => some (signed (Extended.ofDecimal digits (-places)))
      | e :: power =>
        if e = 'e' ∨ e = 'E' then
          (readInteger? power).map fun n => signed (Extended.ofDecimal digits (n - places))
        else none

/-- The integer that a value stands for. -/
def int : Function := ofValue fun v =>
  let whole := fun (x : Extended) => Value.int (x.toIntWithin Value.minInteger Value.maxInteger)
  match v with
  | .undefined _ | .none => .ok (.int 0)
  | .bool b => .ok (.int (if b then 1 else 0))
  | .int i => .ok (.int i)
  | .float x => .ok (whole x)
  | .string s _ => match readInteger? s.toList with
    | some i => .ok (.int i)
    | none => match readDecimal? s.toList with
      | some x => .ok (whole x)
      | none => .error .invalidOperation
  | _ => .error .invalidOperation

/-- The decimal number that a value stands for. -/
def float : Function := ofValue fun v =>
  match v with
  | .undefined _ | .none => .ok (.float (Extended.ofInt 0))
  | .string s _ => match readDecimal? s.toList with
    | some x => .ok (.float x)
    | none => .error .invalidOperation
  | v => match v.decimal? with
    | some x => .ok (.float x)
    | none => .error .invalidOperation

/-- The value under a key. -/
def attr : Function := fun args => do
  let v ← value args 0
  let key ← value args 1
  atMost 2 args
  Value.item key v

/-- The first character or item. -/
def first : Function := ofValue fun v =>
  match v with
  | .undefined _ | .none => .error .invalidOperation
  | v => match v.iterate? with
    | some xs => .ok (xs.head?.getD Value.missing)
    | none => .error .invalidOperation

/-- The last character or item. -/
def last : Function := ofValue fun v =>
  match v with
  | .string s _ => .ok (((s.toList.getLast?).map fun c => Value.ofChars [c]).getD Value.missing)
  | v => match v.sequence? with
    | some xs => .ok (xs.getLast?.getD Value.missing)
    | none => .error .invalidOperation

/-- An item that no other item precedes, or follows, in the order of values. -/
def extreme (better : Ordering → Bool) : Function := ofValue fun v => do
  let pick := fun (best : Option Value) (x : Value) => match best with
    | none => some x
    | some b => if better (x.compare b) then some x else some b
  return ((← operandItems v).foldl pick none).getD Value.missing

/-- The items of a value as a list. -/
def list : Function := ofValue fun v => Value.ofList <$> operandItems v

/-- The text of a value. -/
def string : Function := ofValue fun v =>
  match v with
  | .string _ _ => .ok v
  | v => .ok (Value.ofText v.text)

/-- Items in rows of some size; a filler completes the last row. -/
def rows (size : Nat) (filler : Option Value) : Nat → List Value → List Value
  | 0, _ => []
  | _ + 1, [] => []
  | fuel + 1, xs =>
    let row := xs.take size
    let padding := match filler with
      | some v => List.replicate (size - row.length) v
      | none => []
    Value.ofList (row ++ padding) :: rows size filler fuel (xs.drop size)

/-- Items in rows of some size. -/
def batch : Function := fun args => do
  let v ← value args 0
  let size ← readAt asCount args 1
  let filler ← readAt? anyValue args 2
  atMost 3 args
  if size = 0 then throw .invalidOperation
  let xs ← Arguments.items v
  return Value.ofList (rows size filler xs.length xs)

/-- Items in some number of columns, the first ones longer; a filler evens them out. -/
def columns (size extra : Nat) (filler : Option Value) : Nat → Nat → List Value → List Value
  | 0, _, _ => []
  | count + 1, index, xs =>
    let take := if index < extra then size + 1 else size
    let padding := match filler with
      | some v => if extra ≤ index then [v] else []
      | none => []
    Value.ofList (xs.take take ++ padding) ::
      columns size extra filler count (index + 1) (xs.drop take)

/-- Items in some number of columns. -/
def slice : Function := fun args => do
  let v ← value args 0
  let count ← readAt asCount args 1
  let filler ← readAt? anyValue args 2
  atMost 3 args
  if count = 0 then throw .invalidOperation
  let xs ← Arguments.items v
  return Value.ofList (columns (xs.length / count) (xs.length % count) filler count 0 xs)

/-- The sum of numbers. -/
def sum : Function := ofValue fun v => do
  (← Arguments.items v).foldlM (fun total x =>
    if x.isLoudlyUndefined then .error .undefinedValue
    else if x.kind == .number then Value.add total x
    else .error .invalidOperation) (.int 0)

/-- A text without one line end at its end. -/
def withoutLineEnd (cs : List Char) : List Char :=
  let cs := if cs.getLast? = some '\n' then cs.dropLast else cs
  if cs.getLast? = some '\r' then cs.dropLast else cs

/-- Lines moved to the right. -/
def indent : Function := fun args => do
  let s ← readAt asText args 0
  let width ← readAt asCount args 1
  let isFirst ← readAt? asBool args 2
  let blank ← readAt? asBool args 3
  atMost 4 args
  if Value.maxRepetition < width then throw .invalidOperation
  let margin := List.replicate width ' '
  let move := fun (line : List Char) =>
    if line.isEmpty then if blank.getD false then margin else [] else margin ++ line
  let out := match Text.splitAll ['\n'] (withoutLineEnd s.toList) with
    | [] => []
    | head :: rest => (if isFirst.getD false then move head else head) :: rest.map move
  return Value.ofChars (withoutLineEnd (out.flatMap fun line => line ++ ['\n']))

/-- Keeps the items of which a test holds, or does not hold. Without a test, truth decides. -/
def select (keep byAttribute : Bool) : Function := fun args => do
  let v ← value args 0
  let path ← if byAttribute then some <$> readAt asText args 1 else pure none
  let rest := args.drop (if byAttribute then 2 else 1)
  let name ← readAt? asText rest 0
  let question ← match name with
    | none => pure none
    | some n => match Test.simple? n with
      | some t => pure (some t)
      | none => throw .unknownTest
  (Value.ofList) <$> (← Arguments.items v).filterM fun x => do
    let subject ← match path with
      | some p => x.atPath p
      | none => pure x
    let holds ← match question with
      | some t => t (subject :: rest.drop 1)
      | none => pure subject.isTrue
    return holds == keep

/-- Items in groups with an equal value at a path. -/
def groups (keyOf : Value → Value) (same : Value → Value → Bool) :
    List Value → List (Value × List Value)
  | [] => []
  | x :: xs => match groups keyOf same xs with
    | [] => [(keyOf x, [x])]
    | (k, ys) :: rest =>
      if same (keyOf x) k then (keyOf x, x :: ys) :: rest else (keyOf x, [x]) :: (k, ys) :: rest

/-- Items grouped by the value at a path. -/
def groupby : Function := fun args => do
  let (args, names) := split args
  let v ← value args 0
  let path ← match ← readAt? onlyText args 1 with
    | some p => pure p
    | none => match ← byName? onlyText names "attribute" with
      | some p => pure p
      | none => throw .missingArgument
  let default := (← byName? anyValue names "default").getD Value.missing
  let caseSensitive := (← byName? asBool names "case_sensitive").getD false
  let xs ← operandItems v
  onlyNames ["attribute", "default", "case_sensitive"] names
  atMost 2 args
  let keyOf := atPathOr default path
  let same := fun (v w : Value) => order caseSensitive v w == .eq
  return Value.ofList ((groups keyOf same (sorted keyOf caseSensitive xs)).map fun (k, ys) =>
    .group k ys)

/-- Items without those that equal an earlier one. -/
def distinct (keyOf : Value → Value) : List Value → List Value → List Value
  | _, [] => []
  | seen, x :: xs =>
    if seen.any fun k => k.compare (keyOf x) == .eq then distinct keyOf seen xs
    else x :: distinct keyOf (keyOf x :: seen) xs

/-- Items without repetitions. -/
def unique : Function := fun args => do
  let (args, names) := split args
  let v ← value args 0
  let caseSensitive := (← byName? asBool names "case_sensitive").getD false
  let path ← byName? onlyText names "attribute"
  onlyNames ["case_sensitive", "attribute"] names
  atMost 1 args
  let keyOf := fun (v : Value) =>
    let k := match path with
      | some p => atPathOr Value.missing p v
      | none => v
    match k.text? with
    | some s => if caseSensitive then k else Value.ofText (Text.lower s)
    | none => k
  return Value.ofList (distinct keyOf [] (← Arguments.items v))

/-- Several lists one after the other, or several maps in one. -/
def chain : Function := fun args => do
  let (args, _) := split args
  let _ ← value args 0
  match args.mapM Value.entries? with
  | some tables => return Value.ofEntries tables.flatten
  | none => return .list true ((← args.mapM Arguments.items).flatten)

/-- The items of several lists, side by side. -/
def zip : Function := fun args => do
  let (args, _) := split args
  let _ ← value args 0
  let all ← args.mapM Arguments.items
  let size := (all.map List.length).min?.getD 0
  return Value.ofList ((List.range size).map fun i => Value.ofList (all.filterMap (·[i]?)))

/-- The text of a value for markup. -/
def escape : Function := ofValue fun v => .ok (.string v.markup true)

/-- The filters that need no other filter. -/
def simple? (name : String) : Option Function :=
  match name with
  | "safe" => some fun args => do
    let s ← readAt asText args 0
    atMost 1 args
    return .string s true
  | "escape" | "e" => some escape
  | "lower" => some (ofText Text.lower)
  | "upper" => some (ofText Text.upper)
  | "title" => some (ofText titleCase)
  | "capitalize" => some (ofText Text.capitalize)
  | "replace" => some replace
  | "length" | "count" => some length
  | "dictsort" => some dictsort
  | "items" => some items
  | "reverse" => some reverse
  | "trim" => some trim
  | "join" => some join
  | "split" => some splitText
  | "lines" => some lines
  | "default" | "d" => some default
  | "round" => some round
  | "abs" => some abs
  | "int" => some int
  | "float" => some float
  | "attr" => some attr
  | "first" => some first
  | "last" => some last
  | "min" => some (extreme (· == .lt))
  | "max" => some (extreme (· != .lt))
  | "sort" => some sort
  | "list" => some list
  | "string" => some string
  | "bool" => some (ofValue fun v => .ok (.bool v.isTrue))
  | "batch" => some batch
  | "slice" => some slice
  | "sum" => some sum
  | "indent" => some indent
  | "select" => some (select true false)
  | "reject" => some (select false false)
  | "selectattr" => some (select true true)
  | "rejectattr" => some (select false true)
  | "groupby" => some groupby
  | "unique" => some unique
  | "chain" => some chain
  | "zip" => some zip
  | "pprint" => some (ofValue fun v => .ok (Value.ofText v.pretty))
  | _ => none

/-- Whether there is a filter with this name. -/
def exists? (name : String) : Bool :=
  name == "map" || (simple? name).isSome

/-- The value at a path or under a key, for each item. -/
def mapAttribute (key : Value) (default : Option Value) (xs : List Value) :
    Except Failure (List Value) :=
  xs.mapM fun x =>
    let found := match key.text? with
      | some path => x.atPath path
      | none => Value.item key x
    match found, default with
    | .ok v, d => .ok (if v.isUndefined then d.getD Value.missing else v)
    | .error _, some d => .ok d
    | .error e, none => .error e

/-- Applies a filter by name; `fuel` bounds how often a filter applies another. -/
def applyFrom : Nat → String → Function
  | 0, _, _ => .error .invalidOperation
  | fuel + 1, name, args => do
    if name = "map" then
      let v ← value args 0
      let (rest, names) := split (args.drop 1)
      match names.lookup "attribute" with
      | some key =>
        if !rest.isEmpty then throw .tooManyArguments
        let ys ← mapAttribute key (names.lookup "default") (← Arguments.items v)
        onlyNames ["attribute", "default"] names
        return Value.ofList ys
      | none =>
        match rest with
        | [] => throw .invalidOperation
        | inner :: more =>
          let other ← onlyText inner
          if !exists? other then throw .unknownFilter
          (Value.ofList) <$> (← Arguments.items v).mapM fun x => applyFrom fuel other (x :: more)
    else match simple? name with
      | some f => f args
      | none => throw .unknownFilter

/-- Applies a filter by name. -/
def apply (name : String) (args : List Value) : Except Failure Value :=
  applyFrom (args.length + 1) name args

/-- Asks a test by name. -/
def ask (name : String) (args : List Value) : Except Failure Bool := do
  let lookup := fun (known : String → Bool) => do
    let n ← readAt onlyText args 0
    atMost 1 args
    return known n
  match name with
  | "filter" => lookup exists?
  | "test" => lookup fun n => n == "filter" || n == "test" || (Test.simple? n).isSome
  | _ => match Test.simple? name with
    | some t => t args
    | none => throw .unknownTest

end ResourceOperator.Template.Filter
