import ResourceOperator.Json.Basic
import ResourceOperator.Template.Failure
import ResourceOperator.Template.Tree

/-!
# Values of templates

What expressions evaluate to. The entries of a map ascend by key. Namespaces, loops and callables
refer by number to cells that the renderer keeps.

The credentials of an issued key are such a value (`ofJson`).
-/

namespace ResourceOperator.Template

/-- A value. A list is lazy when it stands for an iteration; a text is safe when it is not to be
escaped again; an undefined value is silent when it is the missing side of a choice. -/
inductive Value where
  | undefined (silent : Bool)
  | none
  | bool (value : Bool)
  | int (value : Int)
  | float (value : Extended)
  | string (value : String) (safe : Bool)
  | list (isLazy : Bool) (items : List Value)
  | map (entries : List (Value × Value))
  | named (entries : List (String × Value))
  | group (key : Value) (items : List Value)
  | loop (index length depth : Nat) (previous next : Option Value) (cell : Nat)
  | callable (name : String) (callable : Callable) (closure : Nat)
  | function (name : String)
  | space (cell : Nat)

/-- What sort of value it is, in the order in which sorts compare. -/
inductive Kind where
  | undefined
  | none
  | bool
  | number
  | string
  | sequence
  | map
  | iterable
  | plain
  deriving DecidableEq, Repr

/-- The rank of a kind. -/
def Kind.rank : Kind → Nat
  | .undefined => 0
  | .none => 1
  | .bool => 2
  | .number => 3
  | .string => 4
  | .sequence => 5
  | .map => 6
  | .iterable => 7
  | .plain => 8

namespace Value

/-- The plain undefined value. -/
def missing : Value :=
  .undefined false

/-- A text that is not marked safe. -/
def ofText (s : String) : Value :=
  .string s false

/-- A text of characters. -/
def ofChars (cs : List Char) : Value :=
  .string (String.ofList cs) false

/-- A natural number. -/
def ofNat (n : Nat) : Value :=
  .int n

/-- A list that is not lazy. -/
def ofList (items : List Value) : Value :=
  .list false items

/-- What sort of value it is. -/
def kind : Value → Kind
  | .undefined _ => .undefined
  | .none => .none
  | .bool _ => .bool
  | .int _ | .float _ => .number
  | .string _ _ => .string
  | .list isLazy _ => if isLazy then .iterable else .sequence
  | .group _ _ => .sequence
  | .map _ | .named _ | .loop _ _ _ _ _ _ | .space _ => .map
  | .callable _ _ _ | .function _ => .plain

/-- Whether the value is undefined. -/
def isUndefined (v : Value) : Bool :=
  v.kind == .undefined

/-- Whether the value is undefined and not silently so. -/
def isLoudlyUndefined : Value → Bool
  | .undefined silent => !silent
  | _ => false

/-- Whether the value is a container or a callable. -/
def isObject (v : Value) : Bool :=
  5 ≤ v.kind.rank

/-- The text of a text value. -/
def text? : Value → Option String
  | .string s _ => some s
  | _ => .none

/-- The items of a group. -/
def groupItems (key : Value) (items : List Value) : List Value :=
  [key, ofList items]

/-- The attributes of a loop. -/
def loopAttributes : List String :=
  ["index0", "index", "length", "revindex", "revindex0", "first", "last", "depth", "depth0",
    "previtem", "nextitem"]

/-- The items of a list or of a lazy list. -/
def sequence? : Value → Option (List Value)
  | .list _ items => some items
  | .group key items => some (groupItems key items)
  | _ => .none

/-- The entries of a map. -/
def entries? : Value → Option (List (Value × Value))
  | .map entries => some entries
  | .named entries => some (entries.map fun (k, v) => (ofText k, v))
  | _ => .none

/-- What an iteration over the value visits: characters, items or keys. -/
def iterate? : Value → Option (List Value)
  | .none | .undefined _ => some []
  | .string s _ => some (s.toList.map fun c => ofChars [c])
  | .loop _ _ _ _ _ _ => some (loopAttributes.map ofText)
  | v => match v.sequence? with
    | some items => some items
    | .none => v.entries?.map fun es => es.map (·.1)

/-- How many characters, items or entries the value has. -/
def length? : Value → Option Nat
  | .string s _ => some s.length
  | .none | .undefined _ => .none
  | v => v.iterate?.map List.length

/-- Whether the value counts as true in a condition. -/
def isTrue : Value → Bool
  | .undefined _ | .none => false
  | .bool b => b
  | .int i => i != 0
  | .float x => !x.isZero
  | .string s _ => !s.isEmpty
  | .list _ items => !items.isEmpty
  | .map entries => !entries.isEmpty
  | .named entries => !entries.isEmpty
  | _ => true

/-- The integer that a value stands for: whole numbers and truth values. -/
def integer? : Value → Option Int
  | .bool b => some (if b then 1 else 0)
  | .int i => some i
  | .float x => x.toInt?
  | _ => .none

/-- The integer of a value when it lies within bounds. -/
def integerWithin? (low high : Int) (v : Value) : Option Int :=
  v.integer?.filter fun i => decide (low ≤ i ∧ i ≤ high)

/-- The position that an index denotes in a list of some length; negative ones count from its
end. -/
def position? (length : Nat) (index : Value) : Option Nat := do
  let i ← index.integerWithin? (-9223372036854775808) 9223372036854775807
  if i < 0 then if i.natAbs ≤ length then some (length - i.natAbs) else .none
  else some i.toNat

mutual

/-- A document as a value. -/
def ofJson : Json → Value
  | .null => .none
  | .bool b => .bool b
  | .number (.int i) => .int i
  | .number (.double x) => .float (.finite x)
  | .string s => ofText s
  | .array items => .list false (ofItems items)
  | .object members => .map (ofMembers members)

/-- The items of an array as values. -/
def ofItems : List Json → List Value
  | [] => []
  | x :: xs => ofJson x :: ofItems xs

/-- The members of an object as entries. -/
def ofMembers : List (String × Json) → List (Value × Value)
  | [] => []
  | (k, v) :: rest => (ofText k, ofJson v) :: ofMembers rest

end

end Value

end ResourceOperator.Template
