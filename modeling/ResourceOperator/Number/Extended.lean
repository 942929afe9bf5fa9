import ResourceOperator.Number.Binary64

/-!
# Binary64 with infinities and not-a-number

Arithmetic in which every operation has a result: beyond the finite range it is an infinity, and
without a meaning it is not-a-number. Sums, products, quotients and remainders of finite numbers are
computed exactly and rounded once.
-/

namespace ResourceOperator

/-- A binary64 number, an infinity or not-a-number. -/
inductive Extended where
  | finite (value : Binary64)
  | infinite (negative : Bool)
  | nan
  deriving DecidableEq, Repr

namespace Extended

/-- A rounded result; out of range it is the infinity of that sign. -/
def ofRounded (negative : Bool) : Option Binary64 → Extended
  | some x => .finite x
  | none => .infinite negative

/-- The number nearest to an integer. -/
def ofInt (i : Int) : Extended :=
  ofRounded (i < 0) (Binary64.ofInt i)

/-- The sign, where there is one. -/
def negative : Extended → Bool
  | .finite x => x.negative
  | .infinite n => n
  | .nan => false

/-- The same number with the other sign. -/
def neg : Extended → Extended
  | .finite x => .finite x.neg
  | .infinite n => .infinite !n
  | .nan => .nan

/-- The number without its sign. -/
def abs : Extended → Extended
  | .finite x => .finite { x with negative := false }
  | .infinite _ => .infinite false
  | .nan => .nan

/-- Whether the number is a zero. -/
def isZero : Extended → Bool
  | .finite x => x.isZero
  | _ => false

/-- The sum. -/
def add : Extended → Extended → Extended
  | .nan, _ | _, .nan => .nan
  | .infinite a, .infinite b => if a = b then .infinite a else .nan
  | .infinite a, .finite _ | .finite _, .infinite a => .infinite a
  | .finite x, .finite y =>
    if x.isZero && y.isZero then
      .finite { Binary64.zero with negative := x.negative && y.negative }
    else ofRounded x.negative (x.add y)

/-- The difference. -/
def sub (a b : Extended) : Extended :=
  a.add b.neg

/-- The product. -/
def mul : Extended → Extended → Extended
  | .nan, _ | _, .nan => .nan
  | .infinite a, .infinite b => .infinite (a != b)
  | .infinite a, .finite y => if y.isZero then .nan else .infinite (a != y.negative)
  | .finite x, .infinite b => if x.isZero then .nan else .infinite (x.negative != b)
  | .finite x, .finite y => ofRounded (x.negative != y.negative) (x.mul y)

/-- The quotient; a number over zero is an infinity. -/
def div : Extended → Extended → Extended
  | .nan, _ | _, .nan => .nan
  | .infinite _, .infinite _ => .nan
  | .infinite a, .finite y => .infinite (a != y.negative)
  | .finite x, .infinite b =>
    .finite { Binary64.zero with negative := x.negative != b }
  | .finite x, .finite y =>
    if y.isZero then if x.isZero then .nan else .infinite (x.negative != y.negative)
    else ofRounded (x.negative != y.negative) (x.div y)

/-- The remainder of division toward zero; it has the sign of the dividend. -/
def rem : Extended → Extended → Extended
  | .nan, _ | _, .nan => .nan
  | .infinite _, _ => .nan
  | .finite x, .infinite _ => .finite x
  | .finite x, .finite y =>
    if y.isZero then .nan
    else
      let (a, b) := x.ratio
      let (c, d) := y.ratio
      ofRounded x.negative (Binary64.ofRatio x.negative (a * d % (c * b)) (b * d))

/-- The whole part. -/
def trunc : Extended → Extended
  | .finite x =>
    let (a, b) := x.ratio
    ofRounded x.negative (Binary64.ofRatio x.negative (a / b) 1)
  | x => x

/-- The nearest whole number; halves go away from zero. -/
def round : Extended → Extended
  | .finite x =>
    let (a, b) := x.ratio
    ofRounded x.negative (Binary64.ofRatio x.negative ((2 * a + b) / (2 * b)) 1)
  | x => x

/-- The quotient of division with a remainder that is not negative. -/
def divEuclid (a b : Extended) : Extended :=
  let q := (a.div b).trunc
  let r := a.rem b
  if r.negative && !r.isZero then
    if b.negative then q.add (ofInt 1) else q.sub (ofInt 1)
  else q

/-- Ascending order of numbers; not-a-number is not compared. -/
def compare? : Extended → Extended → Option Ordering
  | .nan, _ | _, .nan => none
  | .infinite a, .infinite b =>
    some (if a = b then .eq else if a then .lt else .gt)
  | .infinite a, .finite _ => some (if a then .lt else .gt)
  | .finite _, .infinite b => some (if b then .gt else .lt)
  | .finite x, .finite y =>
    let (a, b) := x.ratio
    let (c, d) := y.ratio
    let left : Int := if x.negative then -(a * d : Nat) else (a * d : Nat)
    let right : Int := if y.negative then -(c * b : Nat) else (c * b : Nat)
    some (compare left right)

/-- Equality of values. -/
def same (a b : Extended) : Bool :=
  a.compare? b == some .eq

/-- The integer that a whole number is. -/
def toInt? : Extended → Option Int
  | .finite x =>
    let (a, b) := x.ratio
    if a % b = 0 then some (if x.negative then -((a / b : Nat) : Int) else (a / b : Nat)) else none
  | _ => none

/-- The whole part as an integer, held within bounds; not-a-number is zero. -/
def toIntWithin (low high : Int) : Extended → Int
  | .nan => 0
  | .infinite n => if n then low else high
  | .finite x =>
    let (a, b) := x.ratio
    let i : Int := if x.negative then -((a / b : Nat) : Int) else (a / b : Nat)
    max low (min high i)

/-- `10 ^ n`, rounded; a negative power is one over the positive one. -/
def powerOfTen (n : Int) : Extended :=
  if 0 ≤ n then ofInt (Nat.pow 10 (min n 400).toNat)
  else (ofInt 1).div (ofInt (Nat.pow 10 (min (-n) 400).toNat))

/-- The bit pattern of binary64 interchange. -/
def toBits : Extended → UInt64
  | .nan => 0x7FF8000000000000
  | .infinite n => if n then 0xFFF0000000000000 else 0x7FF0000000000000
  | .finite x =>
    let sign : Nat := if x.negative then Nat.pow 2 63 else 0
    if x.mantissa < Nat.pow 2 52 then (sign + x.mantissa).toUInt64
    else (sign + (x.exponent + 1075).toNat * Nat.pow 2 52 + (x.mantissa - Nat.pow 2 52)).toUInt64

/-- The number with a bit pattern. -/
def ofBits (bits : UInt64) : Extended :=
  let n : Nat := bits.toNat
  let negative := decide (Nat.pow 2 63 ≤ n)
  let field : Nat := n / Nat.pow 2 52 % 2048
  let fraction : Nat := n % Nat.pow 2 52
  if field = 2047 then if fraction = 0 then .infinite negative else .nan
  else if field = 0 then .finite ⟨negative, fraction, -1074⟩
  else .finite ⟨negative, Nat.pow 2 52 + fraction, (field : Int) - 1075⟩

/-- The power. -/
def pow (a b : Extended) : Extended :=
  ofBits (Float.pow (Float.ofBits a.toBits) (Float.ofBits b.toBits)).toBits

/-- Reads `digits · 10 ^ exponent`. -/
def ofDecimal (digits : Nat) (exponent : Int) : Extended :=
  if digits = 0 then .finite Binary64.zero
  else
    let size : Int := Binary64.digitCount digits + exponent
    if 400 < size then .infinite false
    else if size < -400 then .finite Binary64.zero
    else if 0 ≤ exponent then
      ofRounded false (Binary64.ofRatio false (digits * Nat.pow 10 exponent.toNat) 1)
    else ofRounded false (Binary64.ofRatio false digits (Nat.pow 10 (-exponent).toNat))

/-- Positional text with a fraction. -/
def plain : Extended → String
  | .nan => "NaN"
  | .infinite n => if n then "-inf" else "inf"
  | .finite x =>
    let d := x.shortest
    x.plain ++ (if 0 ≤ d.exponent then ".0" else "")

/-- The text of a number inside a container: positional from `1e-4` up to `1e16`, else with an
exponent. -/
def nested : Extended → String
  | .nan => "NaN"
  | .infinite n => if n then "-inf" else "inf"
  | .finite x =>
    let d := x.shortest
    let magnitude := (Binary64.digitCount d.digits : Int) + d.exponent
    let body :=
      if d.digits = 0 then "0.0"
      else if -4 < magnitude ∧ magnitude ≤ 16 then
        if 0 ≤ d.exponent then d.positional ++ ".0" else d.positional
      else
        let cs := d.chars
        let fraction := match cs.tail with
          | [] => []
          | tail => '.' :: tail
        String.ofList (cs.take 1 ++ fraction) ++ "e" ++ toString (magnitude - 1)
    (if x.negative then "-" else "") ++ body

end Extended

end ResourceOperator
