import ResourceOperator.Text.Utf8

/-!
# Percent-encoding and form encoding

An octet that may not stand for itself is written as a percent sign and two hexadecimal digits.
Form encoding writes pairs of names and values as `application/x-www-form-urlencoded` text: letters,
digits and `*-._` stand for themselves, a blank is a plus sign, and every other octet is
percent-encoded.

`list_tags`, `service_plans` and `resource_group_id` write their queries so, and `token` the body of
its request.
-/

namespace ResourceOperator.Net

namespace Percent

/-- The two upper-case hexadecimal digits of an octet, after a percent sign. -/
def octet (b : Nat) : List Char :=
  let digit := fun (n : Nat) => (Nat.digitChar n).toUpper
  ['%', digit (b / 16), digit (b % 16)]

/-- A text with the octets of some characters encoded. -/
def encode (encoded : Char → Bool) (cs : List Char) : List Char :=
  cs.flatMap fun c =>
    if encoded c then (Text.Utf8.encode (String.singleton c)).flatMap octet else [c]

/-- The value of a hexadecimal digit. -/
def hexValue? (c : Char) : Option Nat :=
  if c.isDigit then some (c.toNat - 48)
  else if 'a' ≤ c ∧ c ≤ 'f' then some (c.toNat - 87)
  else if 'A' ≤ c ∧ c ≤ 'F' then some (c.toNat - 55)
  else none

/-- The octets of a text in which percent signs with two digits stand for octets. -/
def decodeOctets : List Char → List Nat
  | '%' :: a :: b :: cs => match hexValue? a, hexValue? b with
    | some x, some y => (x * 16 + y) :: decodeOctets cs
    | _, _ => Text.Utf8.encode "%" ++ decodeOctets (a :: b :: cs)
  | c :: cs => Text.Utf8.encode (String.singleton c) ++ decodeOctets cs
  | [] => []

/-- The text that an encoded text stands for. -/
def decode (s : String) : String :=
  Text.Utf8.decodeLossy (decodeOctets s.toList)

/-- Controls and characters beyond ASCII. -/
def isControl (c : Char) : Bool :=
  c.toNat < 0x20 || 0x7E < c.toNat

/-- Characters that are encoded in the path of a URL. -/
def inPath (c : Char) : Bool :=
  isControl c || c == ' ' || c == '"' || c == '#' || c == '<' || c == '>' || c == '?' ||
    c.toNat == 0x60 || c == '{' || c == '}'

/-- Characters that are encoded in the query of a URL. -/
def inQuery (c : Char) : Bool :=
  isControl c || c == ' ' || c == '"' || c == '#' || c == '<' || c == '>' || c == '\''

end Percent

namespace Form

/-- The content type of form-encoded text. -/
def contentType : String := "application/x-www-form-urlencoded"

/-- One octet of a name or value. -/
def octet (b : Nat) : List Char :=
  let c := Char.ofNat b
  if b < 0x80 && (c.isAlphanum || c == '*' || c == '-' || c == '.' || c == '_') then [c]
  else if b = 0x20 then ['+']
  else Percent.octet b

/-- A name or value. -/
def component (s : String) : String :=
  String.ofList ((Text.Utf8.encode s).flatMap octet)

/-- Pairs of names and values. -/
def encode (pairs : List (String × String)) : String :=
  "&".intercalate (pairs.map fun (name, value) => component name ++ "=" ++ component value)

end Form

end ResourceOperator.Net
