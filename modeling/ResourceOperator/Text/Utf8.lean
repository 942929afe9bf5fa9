/-!
# UTF-8 octets

`encode` gives the octets of a text. `decodeLossy` reads any octets: each longest start of a
sequence that cannot be completed becomes one replacement character.

`from_secret` reads the key to the cloud so, and `connection_secret` writes texts so.
-/

namespace ResourceOperator.Text.Utf8

/-- The octets of a text. -/
def encode (s : String) : List Nat :=
  s.toUTF8.toList.map UInt8.toNat

/-- The replacement character. -/
def replacement : Char := '\uFFFD'

/-- For a first octet: how many follow, its own bits, and the range of the second octet. -/
def lead (b : Nat) : Option (Nat × Nat × Nat × Nat) :=
  if 0xC2 ≤ b ∧ b ≤ 0xDF then some (1, b - 0xC0, 0x80, 0xBF)
  else if b = 0xE0 then some (2, 0, 0xA0, 0xBF)
  else if b = 0xED then some (2, 0xD, 0x80, 0x9F)
  else if 0xE1 ≤ b ∧ b ≤ 0xEF then some (2, b - 0xE0, 0x80, 0xBF)
  else if b = 0xF0 then some (3, 0, 0x90, 0xBF)
  else if 0xF1 ≤ b ∧ b ≤ 0xF3 then some (3, b - 0xF0, 0x80, 0xBF)
  else if b = 0xF4 then some (3, 4, 0x80, 0x8F)
  else none

/-- Reads `count` further octets, the first of them within a range. Returns the scalar value, or
`none` when the sequence breaks off, and the octets left. -/
def tail : Nat → Nat → Nat → Nat → List Nat → Option Nat × List Nat
  | 0, bits, _, _, bs => (some bits, bs)
  | _ + 1, _, _, _, [] => (none, [])
  | count + 1, bits, low, high, b :: bs =>
    if low ≤ b ∧ b ≤ high then tail count (bits * 64 + (b - 0x80)) 0x80 0xBF bs
    else (none, b :: bs)

/-- Reads characters, at most `fuel` of them. -/
def decodeFrom : Nat → List Nat → List Char
  | 0, _ => []
  | _ + 1, [] => []
  | fuel + 1, b :: bs =>
    if b < 0x80 then Char.ofNat b :: decodeFrom fuel bs
    else match lead b with
      | none => replacement :: decodeFrom fuel bs
      | some (count, bits, low, high) =>
        match tail count bits low high bs with
        | (some n, rest) => Char.ofNat n :: decodeFrom fuel rest
        | (none, rest) => replacement :: decodeFrom fuel rest

/-- The text of any octets. -/
def decodeLossy (bytes : List Nat) : String :=
  String.ofList (decodeFrom bytes.length bytes)

end ResourceOperator.Text.Utf8
