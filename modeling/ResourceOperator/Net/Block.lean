import ResourceOperator.Net.Address
import ResourceOperator.Text.Search

/-!
# IPv4 blocks

A block of IPv4 addresses in CIDR notation: an address alone, an address with the length of its
network part, or an address with a netmask. A netmask must be contiguous: ones and then zeros.

`generate_prototype` reads the block of a subnet so.
-/

namespace ResourceOperator.Net

/-- A block of IPv4 addresses. -/
structure Block where
  address : Nat
  length : Nat
  deriving DecidableEq, Repr

/-- Why a text is no block. -/
inductive Block.Error where
  | badAddress (text : String)
  | badLength
  | badForm (text : String)
  deriving DecidableEq, Repr

/-- The text of an error. -/
def Block.Error.message : Block.Error → String
  | .badAddress text => "invalid address: " ++ text
  | .badLength => "invalid prefix"
  | .badForm text => "invalid cidr format: CIDR must contain a single '/': " ++ text

/-- An address as one number. -/
def addressNumber (cs : List Char) : Option Nat :=
  (Ipv4.parse? cs).map Ipv4.bits

/-- A length in decimal digits, perhaps after a plus sign, that fits an octet. -/
def lengthNumber (cs : List Char) : Option Nat :=
  let digits := match cs with
    | '+' :: rest => rest
    | cs => cs
  if digits.isEmpty || !digits.all Char.isDigit then none
  else if 255 < decimal digits then none
  else some (decimal digits)

/-- The netmask of a length. -/
def netmask (length : Nat) : Nat :=
  Nat.pow 2 32 - Nat.pow 2 (32 - length)

/-- The length of a contiguous netmask. -/
def lengthOfMask (mask : Nat) : Option Nat :=
  (List.range 33).find? fun length => netmask length == mask

/-- Reads a block. -/
def Block.parse (text : String) : Except Block.Error Block :=
  let cs := text.toList
  match Text.splitFirst '/' cs with
  | none => match addressNumber cs with
    | some a => .ok ⟨a, 32⟩
    | none => .error (.badAddress text)
  | some (host, rest) =>
    if rest.contains '/' then .error (.badForm text)
    else match addressNumber host with
      | none => .error (.badAddress (String.ofList host))
      | some a =>
        let length := match lengthNumber rest with
          | some n => some n
          | none => (addressNumber rest).bind lengthOfMask
        match length with
        | some n => if 32 < n then .error .badLength else .ok ⟨a, n⟩
        | none => .error .badLength

end ResourceOperator.Net
