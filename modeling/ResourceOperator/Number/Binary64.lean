/-!
# Finite binary64 numbers

A sign and a magnitude `mantissa · 2 ^ exponent`, with everything computed in exact natural-number
arithmetic.

* `ofRatio` rounds a quotient to the nearest number, ties to the even mantissa.
* `shortest` gives the fewest decimal digits that read back, and of those the nearest.
* `add`, `mul` and `div` are the exact results, rounded once.
-/

namespace ResourceOperator

/-- A finite binary64 number: its value is `± mantissa · 2 ^ exponent`. Normal numbers have a
mantissa of 53 bits; below them the exponent is `-1074`. -/
structure Binary64 where
  negative : Bool
  mantissa : Nat
  exponent : Int
  deriving DecidableEq, Repr

namespace Binary64

/-- Positive zero. -/
def zero : Binary64 := ⟨false, 0, -1074⟩

/-- Positive or negative zero. -/
def isZero (x : Binary64) : Bool :=
  x.mantissa == 0

/-- The same number with the other sign. -/
def neg (x : Binary64) : Binary64 :=
  { x with negative := !x.negative }

/-- Numbers as values: the two zeros are one value. -/
def same (x y : Binary64) : Bool :=
  x == y || (x.isZero && y.isZero)

/-- The magnitude as a quotient of natural numbers. -/
def ratio (x : Binary64) : Nat × Nat :=
  if 0 ≤ x.exponent then (x.mantissa * Nat.pow 2 x.exponent.toNat, 1)
  else (x.mantissa, Nat.pow 2 (-x.exponent).toNat)

/-- `num / den / 2 ^ e`, rounded to the nearest natural number, ties to even. -/
def scaledRound (num den : Nat) (e : Int) : Nat :=
  let n := if 0 ≤ e then num else num * Nat.pow 2 (-e).toNat
  let d := if 0 ≤ e then den * Nat.pow 2 e.toNat else den
  let q := n / d
  let r := n % d
  if 2 * r < d then q
  else if d < 2 * r then q + 1
  else if q % 2 = 0 then q else q + 1

/-- The largest `e` with `2 ^ e ≤ num / den`, for positive arguments. -/
def floorLog2 (num den : Nat) : Int :=
  let e : Int := (Nat.log2 num : Int) - (Nat.log2 den : Int)
  let atLeast := if 0 ≤ e then den * Nat.pow 2 e.toNat ≤ num else den ≤ num * Nat.pow 2 (-e).toNat
  if atLeast then e else e - 1

/-- The number nearest to `num / den`, ties to the even mantissa; `none` beyond the finite range. -/
def ofRatio (negative : Bool) (num den : Nat) : Option Binary64 :=
  if num = 0 then some ⟨negative, 0, -1074⟩
  else
    let e := max (floorLog2 num den - 52) (-1074)
    let m := scaledRound num den e
    let (m, e) := if m = Nat.pow 2 53 then (Nat.pow 2 52, e + 1) else (m, e)
    if 971 < e then none else some ⟨negative, m, e⟩

/-- The number nearest to an integer. -/
def ofInt (i : Int) : Option Binary64 :=
  ofRatio (i < 0) i.natAbs 1

/-- The product, rounded once. -/
def mul (x y : Binary64) : Option Binary64 :=
  let (a, b) := x.ratio
  let (c, d) := y.ratio
  ofRatio (x.negative != y.negative) (a * c) (b * d)

/-- The quotient by a non-zero number, rounded once. -/
def div (x y : Binary64) : Option Binary64 :=
  let (a, b) := x.ratio
  let (c, d) := y.ratio
  ofRatio (x.negative != y.negative) (a * d) (b * c)

/-- The sum, rounded once. A zero sum of unlike signs is positive. -/
def add (x y : Binary64) : Option Binary64 :=
  let (a, b) := x.ratio
  let (c, d) := y.ratio
  if x.negative = y.negative then ofRatio x.negative (a * d + c * b) (b * d)
  else if c * b < a * d then ofRatio x.negative (a * d - c * b) (b * d)
  else if a * d < c * b then ofRatio y.negative (c * b - a * d) (b * d)
  else some zero

/-- The decimal digits of a natural number, without leading zeros; zero has none. -/
def digitCount (n : Nat) : Nat :=
  if n = 0 then 0 else (Nat.toDigits 10 n).length

/-- A decimal magnitude `digits · 10 ^ exponent`. -/
structure Decimal where
  digits : Nat
  exponent : Int
  deriving DecidableEq, Repr

/-- Takes trailing zeros off the digits, at most `fuel` of them. -/
def Decimal.trim : Nat → Decimal → Decimal
  | 0, d => d
  | fuel + 1, d =>
    if d.digits % 10 = 0 ∧ d.digits ≠ 0 then trim fuel ⟨d.digits / 10, d.exponent + 1⟩ else d

/-- The magnitude and its two rounding boundaries, multiplied by four and then by a power of ten
that makes all three natural numbers: `(low, value, high, power)`. -/
def boundaries (x : Binary64) : Nat × Nat × Nat × Nat :=
  let e := x.exponent - 2
  let below := if x.mantissa = Nat.pow 2 52 ∧ -1074 < x.exponent then 1 else 2
  let factor := if 0 ≤ e then Nat.pow 2 e.toNat else Nat.pow 5 (-e).toNat
  ((4 * x.mantissa - below) * factor, 4 * x.mantissa * factor, (4 * x.mantissa + 2) * factor,
    if 0 ≤ e then 0 else (-e).toNat)

/-- Of the two neighbours of `value` on the grid of multiples of `step`, the nearer one that lies
between the boundaries, in multiples of `step`. -/
def gridPoint (low value high step : Nat) (closed : Bool) : Option Nat :=
  let inside := fun c => if closed then low ≤ c ∧ c ≤ high else low < c ∧ c < high
  let down := value / step
  let up := down + 1
  let downIn := decide (inside (down * step)) && down != 0
  let upIn := decide (inside (up * step))
  if downIn && upIn then
    let dl := value - down * step
    let du := up * step - value
    if dl < du then some down else if du < dl then some up
    else if down % 2 = 0 then some down else some up
  else if downIn then some down
  else if upIn then some up
  else none

/-- Tries grids of growing digit count; `places` is the count of digits dropped. -/
def shortestFrom (low value high : Nat) (closed : Bool) : Nat → Nat × Nat
  | 0 => (value, 0)
  | places + 1 =>
    match gridPoint low value high (Nat.pow 10 (places + 1)) closed with
    | some d => (d, places + 1)
    | none => shortestFrom low value high closed places

/-- The fewest decimal digits that read back as the magnitude, and of those the nearest. -/
def shortest (x : Binary64) : Decimal :=
  if x.isZero then ⟨0, 0⟩
  else
    let (low, value, high, power) := x.boundaries
    let (d, places) := shortestFrom low value high (x.mantissa % 2 == 0) (digitCount value)
    Decimal.trim (digitCount d) ⟨d, (places : Int) - power⟩

/-- The digits of a decimal magnitude as characters. -/
def Decimal.chars (d : Decimal) : List Char :=
  Nat.toDigits 10 d.digits

/-- Positional notation: no exponent, and no fraction for a whole number. -/
def Decimal.positional (d : Decimal) : String :=
  let cs := d.chars
  if 0 ≤ d.exponent then
    String.ofList (if d.digits = 0 then ['0'] else cs ++ List.replicate d.exponent.toNat '0')
  else
    let places := (-d.exponent).toNat
    if places < cs.length then
      String.ofList (cs.take (cs.length - places) ++ '.' :: cs.drop (cs.length - places))
    else
      String.ofList ('0' :: '.' :: List.replicate (places - cs.length) '0' ++ cs)

/-- Positional notation of a number, as metrics and templates write it. -/
def plain (x : Binary64) : String :=
  (if x.negative then "-" else "") ++ x.shortest.positional

/-- Scientific notation with one digit before the point and a signed exponent. -/
def Decimal.scientific (d : Decimal) : String :=
  let cs := d.chars
  let e := d.exponent + (cs.length - 1 : Nat)
  let mark := if 0 ≤ e then "e+" else "e-"
  let fraction := match cs.tail with
    | [] => []
    | tail => '.' :: tail
  String.ofList (cs.take 1 ++ fraction) ++ mark ++ toString e.natAbs

/-- The text of a number in a document: positional from `1e-5` up to `1e16`, with `.0` on whole
numbers, scientific elsewhere. -/
def text (x : Binary64) : String :=
  let d := x.shortest
  let magnitude := (digitCount d.digits : Int) + d.exponent
  let body :=
    if d.digits = 0 then "0.0"
    else if -5 < magnitude ∧ magnitude ≤ 16 then
      let p := d.positional
      if 0 ≤ d.exponent then p ++ ".0" else p
    else d.scientific
  (if x.negative then "-" else "") ++ body

end Binary64

end ResourceOperator
