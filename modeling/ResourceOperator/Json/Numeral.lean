import ResourceOperator.Json.Basic

/-!
# Numerals

The grammar of a JSON number and the value it denotes: `read` finds a numeral in a text, which may
be too large for any number, and `Parts.number` is its value. A numeral without fraction and
exponent is an integer when it lies between `-2^63` and `2^64 - 1`; every other numeral, and `-0`,
is a binary64 number. Its digits are gathered into a 64-bit significand, digits beyond it only shift
the point, and the value is the significand, rounded, times or over a rounded power of ten.
-/

namespace ResourceOperator.Json.Numeral

/-- The largest significand. -/
def maxSignificand : Nat := 18446744073709551615

/-- The value of a decimal digit. -/
def digit (c : Char) : Nat :=
  c.toNat - '0'.toNat

/-- Gathers digits into the significand while it stays in range; also returns the digits that are
left over. -/
def gather : Nat → List Char → Nat × List Char
  | s, [] => (s, [])
  | s, c :: cs =>
    if maxSignificand < s * 10 + digit c then (s, c :: cs) else gather (s * 10 + digit c) cs

/-- `significand · 10 ^ exponent`, by powers of ten up to `10 ^ 308` at a time. -/
def scale : Nat → Binary64 → Int → Option Binary64
  | 0, _, _ => none
  | fuel + 1, f, exponent =>
    if exponent.natAbs ≤ 308 then do
      let power ← Binary64.ofRatio false (Nat.pow 10 exponent.natAbs) 1
      if 0 ≤ exponent then f.mul power else f.div power
    else if f.isZero then some f
    else if 0 ≤ exponent then none
    else do
      let power ← Binary64.ofRatio false (Nat.pow 10 308) 1
      scale fuel (← f.div power) (exponent + 308)

/-- The binary64 number of a significand and a decimal exponent. -/
def double (negative : Bool) (significand : Nat) (exponent : Int) : Option Number := do
  let f ← Binary64.ofRatio false significand 1
  let f ← scale (exponent.natAbs / 308 + 2) f exponent
  some (.double { f with negative := negative })

/-- The number of an integer numeral. -/
def whole (negative : Bool) (significand : Nat) : Option Number :=
  if !negative then some (.int significand)
  else if significand = 0 ∨ 9223372036854775808 < significand then
    double true significand 0
  else some (.int (-significand))

/-- The exponent part, if there is one: its value and the rest of the text. -/
def exponentPart : List Char → Option (Option Int × List Char)
  | c :: cs =>
    if c = 'e' ∨ c = 'E' then
      let (negative, cs) := match cs with
        | '+' :: rest => (false, rest)
        | '-' :: rest => (true, rest)
        | rest => (false, rest)
      let digits := cs.takeWhile Char.isDigit
      if digits.isEmpty then none
      else
        let n := digits.foldl (fun n c => n * 10 + digit c) 0
        some (some (if negative then -(n : Int) else n), cs.dropWhile Char.isDigit)
    else some (none, c :: cs)
  | [] => some (none, [])

/-- What a numeral says: its sign, the digits before and after the point, and its exponent. -/
structure Parts where
  negative : Bool
  whole : List Char
  fraction : Option (List Char)
  exponent : Option Int

/-- Reads a numeral from the start of a text. -/
def read (text : List Char) : Option (Parts × List Char) := do
  let (negative, cs) := match text with
    | '-' :: rest => (true, rest)
    | rest => (false, rest)
  let (digits, cs) ← match cs with
    | '0' :: rest => if (rest.head?.map Char.isDigit).getD false then none else some (['0'], rest)
    | c :: rest =>
      if c.isDigit then
        some ((c :: rest).takeWhile Char.isDigit, (c :: rest).dropWhile Char.isDigit)
      else none
    | [] => none
  match cs with
  | '.' :: rest =>
    let fraction := rest.takeWhile Char.isDigit
    if fraction.isEmpty then none
    else
      let (exponent, cs) ← exponentPart (rest.dropWhile Char.isDigit)
      some (⟨negative, digits, some fraction, exponent⟩, cs)
  | rest =>
    let (exponent, cs) ← exponentPart rest
    some (⟨negative, digits, none, exponent⟩, cs)

/-- The number that a numeral denotes, if there is one of that size. -/
def Parts.number (p : Parts) : Option Number :=
  let (significand, extra) := gather 0 p.whole
  let shift : Int := extra.length
  match p.fraction, p.exponent with
  | some fraction, exponent =>
    let (full, dropped) := gather significand fraction
    let places : Int := (fraction.length : Int) - dropped.length
    double p.negative full (shift - places + exponent.getD 0)
  | none, some e => double p.negative significand (shift + e)
  | none, none =>
    if extra.isEmpty then Numeral.whole p.negative significand
    else double p.negative significand shift

end ResourceOperator.Json.Numeral
