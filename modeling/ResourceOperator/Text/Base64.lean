/-!
# Base64

The standard alphabet with padding (RFC 4648, section 4). `decode` is strict: it wants the padding,
and unused bits that are zero.

`connection_secret` writes the entries of a secret so.
-/

namespace ResourceOperator.Text.Base64

/-- The character of a six-bit group. -/
def digit (n : Nat) : Char :=
  if n < 26 then Char.ofNat (n + 'A'.toNat)
  else if n < 52 then Char.ofNat (n - 26 + 'a'.toNat)
  else if n < 62 then Char.ofNat (n - 52 + '0'.toNat)
  else if n = 62 then '+' else '/'

/-- The six-bit group of a character. -/
def value (c : Char) : Option Nat :=
  if 'A' ≤ c ∧ c ≤ 'Z' then some (c.toNat - 'A'.toNat)
  else if 'a' ≤ c ∧ c ≤ 'z' then some (c.toNat - 'a'.toNat + 26)
  else if '0' ≤ c ∧ c ≤ '9' then some (c.toNat - '0'.toNat + 52)
  else if c = '+' then some 62
  else if c = '/' then some 63
  else none

/-- The characters of octets. -/
def encodeChars : List Nat → List Char
  | a :: b :: c :: rest =>
    digit (a / 4) :: digit (a % 4 * 16 + b / 16) :: digit (b % 16 * 4 + c / 64) :: digit (c % 64) ::
      encodeChars rest
  | [a, b] => [digit (a / 4), digit (a % 4 * 16 + b / 16), digit (b % 16 * 4), '=']
  | [a] => [digit (a / 4), digit (a % 4 * 16), '=', '=']
  | [] => []

/-- The octets of characters. -/
def decodeChars : List Char → Option (List Nat)
  | [] => some []
  | [a, b, '=', '='] => do
    let a ← value a
    let b ← value b
    if b % 16 = 0 then some [a * 4 + b / 16] else none
  | [a, b, c, '='] => do
    let a ← value a
    let b ← value b
    let c ← value c
    if c % 4 = 0 then some [a * 4 + b / 16, b % 16 * 16 + c / 4] else none
  | a :: b :: c :: d :: rest => do
    let a ← value a
    let b ← value b
    let c ← value c
    let d ← value d
    let rest ← decodeChars rest
    some ((a * 4 + b / 16) :: (b % 16 * 16 + c / 4) :: (c % 4 * 64 + d) :: rest)
  | _ => none

/-- The text of octets. -/
def encode (bytes : List Nat) : String :=
  String.ofList (encodeChars bytes)

/-- The octets of a text. -/
def decode (s : String) : Option (List Nat) :=
  decodeChars s.toList

end ResourceOperator.Text.Base64
