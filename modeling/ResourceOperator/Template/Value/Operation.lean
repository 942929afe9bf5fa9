import ResourceOperator.Template.Value.Text
import ResourceOperator.Text.Search

/-!
# Operators on values

Integers have 128 bits, and a result beyond them is a failure; with a decimal operand the operation
is one on decimals. Truth values count as numbers. Texts and lists can be added and repeated.
-/

namespace ResourceOperator.Template.Value

/-- The least integer. -/
def minInteger : Int := -170141183460469231731687303715884105728

/-- The greatest integer. -/
def maxInteger : Int := 170141183460469231731687303715884105727

/-- An integer result, unless it is out of range. -/
def checked (i : Int) : Except Failure Value :=
  if minInteger ≤ i ∧ i ≤ maxInteger then .ok (.int i) else .error .invalidOperation

/-- The decimal number of a number or truth value. -/
def decimal? : Value → Option Extended
  | .float x => some x
  | .int i => some (Extended.ofInt i)
  | .bool b => some (Extended.ofInt (if b then 1 else 0))
  | _ => Option.none

/-- Two operands of arithmetic. -/
inductive Operands where
  | integers (a b : Int)
  | decimals (x y : Extended)

/-- Two values as operands: decimals when one of them is, else integers. -/
def operands? (v w : Value) : Option Operands :=
  match v, w with
  | .float _, _ | _, .float _ => do
    let x ← v.decimal?
    let y ← w.decimal?
    return .decimals x y
  | _, _ => do
    let a ← v.integerWithin? minInteger maxInteger
    let b ← w.integerWithin? minInteger maxInteger
    return .integers a b

/-- Arithmetic by an operation on integers and one on decimals. -/
def arithmetic (integers : Int → Int → Except Failure Value)
    (decimals : Extended → Extended → Extended) (v w : Value) : Except Failure Value :=
  match operands? v w with
  | some (.integers a b) => integers a b
  | some (.decimals x y) => .ok (.float (decimals x y))
  | Option.none => .error .invalidOperation

/-- The sum; texts are joined and lists chained. -/
def add (v w : Value) : Except Failure Value :=
  match v.sequence?, w.sequence?, v.text?, w.text? with
  | some xs, some ys, _, _ => .ok (.list true (xs ++ ys))
  | _, _, some s, some t => .ok (ofText (s ++ t))
  | _, _, _, _ => arithmetic (fun a b => checked (a + b)) Extended.add v w

/-- The difference. -/
def subtract : Value → Value → Except Failure Value :=
  arithmetic (fun a b => checked (a - b)) Extended.sub

/-- The largest size of a repeated text or list. -/
def maxRepetition : Nat := 100000000

/-- How often something of a size is repeated. -/
def repetition (size : Nat) (count : Value) : Except Failure Nat :=
  match count.integerWithin? 0 18446744073709551615 with
  | some n => if size * n.toNat ≤ maxRepetition then .ok n.toNat else .error .invalidOperation
  | Option.none => .error .invalidOperation

/-- The product; texts and lists are repeated. -/
def multiply (v w : Value) : Except Failure Value :=
  let repeatText := fun (s : String) (count : Value) => do
    let n ← repetition s.length count
    return ofText (String.join (List.replicate n s))
  let repeatList := fun (items : List Value) (count : Value) => do
    let n ← repetition items.length count
    return Value.list true (List.replicate n items).flatten
  match v.text?, w.text?, v.sequence?, w.sequence? with
  | some s, _, _, _ => repeatText s w
  | _, some s, _, _ => repeatText s v
  | _, _, some items, _ => repeatList items w
  | _, _, _, some items => repeatList items v
  | _, _, _, _ => arithmetic (fun a b => checked (a * b)) Extended.mul v w

/-- The quotient, always a decimal. -/
def divide (v w : Value) : Except Failure Value :=
  match v.decimal?, w.decimal? with
  | some x, some y => .ok (.float (x.div y))
  | _, _ => .error .invalidOperation

/-- The whole quotient, with a remainder that is not negative. -/
def floorDivide : Value → Value → Except Failure Value :=
  arithmetic (fun a b => if b = 0 then .error .invalidOperation else checked (a / b))
    Extended.divEuclid

/-- The remainder. -/
def remainder : Value → Value → Except Failure Value :=
  arithmetic (fun a b => if b = 0 then .error .invalidOperation else checked (a % b))
    Extended.rem

/-- An integer power with a result in range; the base is squared at most as often as the exponent
has bits. -/
def integerPower (a : Int) (n : Nat) : Except Failure Value :=
  if a.natAbs ≤ 1 then .ok (.int (if n = 0 then 1 else if a = -1 ∧ n % 2 = 0 then 1 else a))
  else if 128 < n then .error .invalidOperation
  else checked (Int.pow a n)

/-- The power. -/
def power : Value → Value → Except Failure Value :=
  arithmetic (fun a b =>
      if 0 ≤ b ∧ b < 4294967296 then integerPower a b.toNat else .error .invalidOperation)
    Extended.pow

/-- The negation of a number. -/
def negate : Value → Except Failure Value
  | .int i => if i ≤ -minInteger then checked (-i) else .error .invalidOperation
  | .float x => .ok (.float x.neg)
  | _ => .error .invalidOperation

/-- Whether a container holds a value: a part of a text, an item or a key. -/
def contains (container v : Value) : Except Failure Bool :=
  match container.text?, container.sequence?, container.entries? with
  | some s, _, _ => .ok (Text.occurs v.text.toList s.toList)
  | _, some items, _ => .ok (items.any (same v))
  | _, _, some entries => .ok (under? v entries).isSome
  | _, _, _ =>
    if container.isUndefined then .ok false
    else if container.isObject then .ok (item? v container).isSome
    else .error .invalidOperation

/-- The bound of a slice, where there is one. -/
def sliceBound : Value → Except Failure (Option Int)
  | .none => .ok Option.none
  | v => match v.integerWithin? (-9223372036854775808) 9223372036854775807 with
    | some i => .ok (some i)
    | Option.none => .error .invalidOperation

/-- Every `step`-th item. -/
def everyNth {α : Type} (step : Nat) (xs : List α) : List α :=
  (xs.zipIdx.filter fun (_, i) => i % step == 0).map (·.1)

/-- The items between two bounds, each counted from the end when it is negative. A start before the
first item selects nothing; a stop before it selects all. -/
def between {α : Type} (start stop : Option Int) (xs : List α) : List α :=
  let size : Int := xs.length
  let first := start.getD 0
  let first := if first < 0 then size + first else first
  let last := match stop with
    | Option.none => size
    | some s => if s < 0 then (if size + s < 0 then size else size + s) else s
  if first < 0 then [] else (xs.drop first.toNat).take (last - first).toNat

/-- Items from a start down to a stop. -/
def downFrom {α : Type} (start stop : Option Int) (step : Nat) (xs : List α) : List α :=
  let size : Int := xs.length
  let first : Int := match start with
    | Option.none => size - 1
    | some s => if size ≤ s then size - 1 else if 0 ≤ s then s else max 0 (size + s)
  let last : Int := match stop with
    | Option.none => 0
    | some s => if s < 0 then max 0 (size + s) else s
  let count : Int := if last = 0 then (first + step) / step else (first - last + step - 1) / step
  (List.range count.toNat).filterMap fun (i : Nat) => xs[(first - i * step).toNat]?

/-- The items that a slice selects. -/
def sliceItems {α : Type} (start stop : Option Int) (step : Int) (xs : List α) : List α :=
  if 0 < step then everyNth step.toNat (between start stop xs)
  else if xs.isEmpty then []
  else downFrom start stop step.natAbs xs

/-- A slice of a text or a list. -/
def slice (v start stop step : Value) : Except Failure Value := do
  let start ← sliceBound start
  let stop ← sliceBound stop
  let step := (← sliceBound step).getD 1
  if step = 0 then throw .invalidOperation
  match v with
  | .string s _ => return ofChars (sliceItems start stop step s.toList)
  | .undefined _ | .none => return ofList []
  | v => match v.sequence? with
    | some items => return .list true (sliceItems start stop step items)
    | Option.none => throw .invalidOperation

/-- The value of one step of a path: an index when it is all digits, else an attribute. -/
def atStep (v : Value) (part : List Char) : Except Failure Value :=
  if !part.isEmpty ∧ part.all Char.isDigit then
    item (ofNat (part.foldl (fun n c => n * 10 + (c.toNat - 48)) 0)) v
  else if v.isUndefined then .error .undefinedValue
  else .ok ((attribute? (String.ofList part) v).getD missing)

/-- The value at the end of a path of attributes and indices between dots. -/
def atPath (path : String) (v : Value) : Except Failure Value :=
  (Text.splitAll ['.'] path.toList).foldlM atStep v

end ResourceOperator.Template.Value
