import ResourceOperator.Template.Arguments
import ResourceOperator.Text.Case

/-!
# Tests

The questions that `is` asks of a value, by name.
-/

namespace ResourceOperator.Template.Test

open Arguments

/-- A test: its answer for a value and further arguments. -/
abbrev Question := List Value → Except Failure Bool

/-- A test of one value. -/
def ofValue (p : Value → Bool) : Question := fun args => do
  let v ← value args 0
  atMost 1 args
  return p v

/-- A test of a value against another. -/
def ofPair (p : Value → Value → Bool) : Question := fun args => do
  let v ← value args 0
  let w ← value args 1
  atMost 2 args
  return p v w

/-- A test of the characters of a text. -/
def ofChars (p : Char → Bool) : Question := fun args => do
  let s ← readAt asText args 0
  atMost 1 args
  return s.toList.all p

/-- A test of a text against another. -/
def ofTexts (p : List Char → List Char → Bool) : Question := fun args => do
  let s ← readAt asText args 0
  let t ← readAt asText args 1
  atMost 2 args
  return p s.toList t.toList

/-- Whether the value is an integer with this remainder of division by two. -/
def hasParity (odd : Bool) (v : Value) : Bool :=
  match v.integerWithin? Value.minInteger Value.maxInteger with
  | some i => (i % 2 == 1) == odd
  | none => false

/-- Whether a number is divisible by another. -/
def divisibleBy (v w : Value) : Bool :=
  match Value.operands? v w with
  | some (.integers a b) => b != 0 && a % b == 0
  | some (.decimals x y) => (x.rem y).isZero
  | none => false

/-- Whether two values are the same value of the same kind. -/
def sameAs (v w : Value) : Bool :=
  let isInteger := fun (v : Value) => match v with
    | .int _ => true
    | _ => false
  v.isObject == w.isObject && v.kind == w.kind && isInteger v == isInteger w && v.same w

/-- Whether a value is in a container. -/
def isIn : Question := fun args => do
  let v ← value args 0
  let container ← value args 1
  atMost 2 args
  if container.isLoudlyUndefined then throw .undefinedValue
  match Value.contains container v with
  | .ok b => return b
  | .error _ => return false

/-- The tests that need nothing but their arguments. -/
def simple? (name : String) : Option Question :=
  let order := fun (p : Ordering → Bool) => some (ofPair fun v w => p (v.compare w))
  match name with
  | "undefined" => some (ofValue (·.isUndefined))
  | "defined" => some (ofValue fun v => !v.isUndefined)
  | "none" => some (ofValue fun v => v.kind == .none)
  | "safe" | "escaped" => some (ofValue fun v => match v with
    | .string _ safe => safe
    | _ => false)
  | "boolean" => some (ofValue fun v => v.kind == .bool)
  | "odd" => some (ofValue (hasParity true))
  | "even" => some (ofValue (hasParity false))
  | "divisibleby" => some (ofPair divisibleBy)
  | "number" => some (ofValue fun v => v.kind == .number)
  | "integer" | "int" => some (ofValue fun v => match v with
    | .int _ => true
    | _ => false)
  | "float" => some (ofValue fun v => match v with
    | .float _ => true
    | _ => false)
  | "string" => some (ofValue fun v => v.kind == .string)
  | "sequence" => some (ofValue fun v => v.kind == .sequence)
  | "iterable" => some (ofValue fun v => v.iterate?.isSome)
  | "mapping" => some (ofValue fun v => v.kind == .map)
  | "startingwith" => some (ofTexts fun s t => t.isPrefixOf s)
  | "endingwith" => some (ofTexts fun s t => t.isSuffixOf s)
  | "lower" => some (ofChars Text.isLowercase)
  | "upper" => some (ofChars Text.isUppercase)
  | "sameas" => some (ofPair sameAs)
  | "eq" | "equalto" | "==" => some (ofPair Value.same)
  | "ne" | "!=" => some (ofPair fun v w => !v.same w)
  | "lt" | "lessthan" | "<" => order (· == .lt)
  | "le" | "<=" => order (· != .gt)
  | "gt" | "greaterthan" | ">" => order (· == .gt)
  | "ge" | ">=" => order (· != .lt)
  | "in" => some isIn
  | "true" => some (ofValue fun v => match v with
    | .bool b => b
    | _ => false)
  | "false" => some (ofValue fun v => match v with
    | .bool b => !b
    | _ => false)
  | _ => none

end ResourceOperator.Template.Test
