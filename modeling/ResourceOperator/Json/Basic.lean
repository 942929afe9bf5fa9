import ResourceOperator.Number.Binary64
import ResourceOperator.Table

/-!
# JSON documents

A document is plain data: the members of an object are a table in ascending key order, and a number
is an integer or a binary64 number, which are never equal to each other.

`same` compares documents as values: it differs from equality only in that the two zeros of
binary64 are one value (`same_refl`).
-/

namespace ResourceOperator

/-- A JSON number. Integers and binary64 numbers are kept apart. -/
inductive Number where
  | int (value : Int)
  | double (value : Binary64)
  deriving DecidableEq, Repr

/-- A JSON document. The members of an object are listed in ascending key order. -/
inductive Json where
  | null
  | bool (value : Bool)
  | number (value : Number)
  | string (value : String)
  | array (items : List Json)
  | object (members : List (String × Json))
  deriving Repr, Inhabited

/-- Numbers as values. -/
def Number.same : Number → Number → Bool
  | .int a, .int b => a == b
  | .double a, .double b => a.same b
  | _, _ => false

theorem Number.same_refl (n : Number) : n.same n = true := by
  cases n <;> simp [Number.same, Binary64.same]

namespace Json

mutual

/-- Decides equality of documents. -/
def decEq : (a b : Json) → Decidable (a = b)
  | .null, b => match b with
    | .null => isTrue rfl
    | .bool _ | .number _ | .string _ | .array _ | .object _ => isFalse nofun
  | .bool x, b => match b with
    | .bool y => decidable_of_iff (x = y) (by simp)
    | .null | .number _ | .string _ | .array _ | .object _ => isFalse nofun
  | .number x, b => match b with
    | .number y => decidable_of_iff (x = y) (by simp)
    | .null | .bool _ | .string _ | .array _ | .object _ => isFalse nofun
  | .string x, b => match b with
    | .string y => decidable_of_iff (x = y) (by simp)
    | .null | .bool _ | .number _ | .array _ | .object _ => isFalse nofun
  | .array xs, b => match b with
    | .array ys => match decEqItems xs ys with
      | isTrue h => isTrue (by rw [h])
      | isFalse h => isFalse fun e => h (by injection e)
    | .null | .bool _ | .number _ | .string _ | .object _ => isFalse nofun
  | .object xs, b => match b with
    | .object ys => match decEqMembers xs ys with
      | isTrue h => isTrue (by rw [h])
      | isFalse h => isFalse fun e => h (by injection e)
    | .null | .bool _ | .number _ | .string _ | .array _ => isFalse nofun

/-- Decides equality of item lists. -/
def decEqItems : (xs ys : List Json) → Decidable (xs = ys)
  | [], [] => isTrue rfl
  | [], _ :: _ => isFalse nofun
  | _ :: _, [] => isFalse nofun
  | x :: xs, y :: ys => match decEq x y, decEqItems xs ys with
    | isTrue h, isTrue t => isTrue (by rw [h, t])
    | isFalse h, _ => isFalse fun e => h (by injection e)
    | _, isFalse t => isFalse fun e => t (by injection e)

/-- Decides equality of member lists. -/
def decEqMembers : (xs ys : List (String × Json)) → Decidable (xs = ys)
  | [], [] => isTrue rfl
  | [], _ :: _ => isFalse nofun
  | _ :: _, [] => isFalse nofun
  | (k, x) :: xs, (l, y) :: ys =>
    if hk : k = l then
      match decEq x y, decEqMembers xs ys with
      | isTrue h, isTrue t => isTrue (by rw [hk, h, t])
      | isFalse h, _ => isFalse fun e => h (by injection e with e _; injection e)
      | _, isFalse t => isFalse fun e => t (by injection e)
    else isFalse fun e => hk (by injection e with e _; injection e)

end

instance : DecidableEq Json := decEq

mutual

/-- Documents as values. -/
def same : Json → Json → Bool
  | .null, .null => true
  | .bool a, .bool b => a == b
  | .number a, .number b => a.same b
  | .string a, .string b => a == b
  | .array xs, .array ys => sameItems xs ys
  | .object xs, .object ys => sameMembers xs ys
  | _, _ => false

/-- Item lists as values. -/
def sameItems : List Json → List Json → Bool
  | [], [] => true
  | x :: xs, y :: ys => same x y && sameItems xs ys
  | _, _ => false

/-- Member lists as values. -/
def sameMembers : List (String × Json) → List (String × Json) → Bool
  | [], [] => true
  | (k, x) :: xs, (l, y) :: ys => k == l && same x y && sameMembers xs ys
  | _, _ => false

end

mutual

/-- Every document is the same value as itself. -/
theorem same_refl : (v : Json) → same v v = true
  | .null => rfl
  | .bool _ => by simp [same]
  | .number n => by simp [same, Number.same_refl]
  | .string _ => by simp [same]
  | .array xs => by simp [same, sameItems_refl xs]
  | .object ms => by simp [same, sameMembers_refl ms]

theorem sameItems_refl : (xs : List Json) → sameItems xs xs = true
  | [] => rfl
  | x :: xs => by simp [sameItems, same_refl x, sameItems_refl xs]

theorem sameMembers_refl : (ms : List (String × Json)) → sameMembers ms ms = true
  | [] => rfl
  | (_, v) :: ms => by simp [sameMembers, same_refl v, sameMembers_refl ms]

end

/-- An integer as a document. -/
def ofInt (i : Int) : Json :=
  .number (.int i)

/-- A natural number as a document. -/
def ofNat (n : Nat) : Json :=
  .number (.int n)

/-- Text values as an array. -/
def ofStrings (xs : List String) : Json :=
  .array (xs.map .string)

/-- A table of text as an object. -/
def ofTexts (t : Table String) : Json :=
  .object (Table.mapValues .string t)

/-- An object from members in any order; of two equal names the later one counts. -/
def ofMembers (members : List (String × Json)) : Json :=
  .object (Table.ofList members)

/-- The member of an object, by name. -/
def get? (name : String) : Json → Option Json
  | .object members => Table.get? name members
  | _ => none

/-- The text of a string document. -/
def string? : Json → Option String
  | .string s => some s
  | _ => none

/-- The member with this name, when there is a value for it. -/
def member (name : String) (value : Option Json) : List (String × Json) :=
  match value with
  | some v => [(name, v)]
  | none => []

@[simp] theorem member_none (name : String) : member name none = [] := rfl

@[simp] theorem member_some (name : String) (v : Json) : member name (some v) = [(name, v)] := rfl

@[simp] theorem get?_member (key name : String) (value : Option Json) :
    Table.get? key (member name value) = if name = key then value else none := by
  cases value <;> by_cases h : name = key <;> simp [h]

end Json

end ResourceOperator
