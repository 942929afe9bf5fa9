import ResourceOperator.Text.Search

/-!
# Network addresses

Addresses of hosts in both versions of the internet protocol, and addresses of sockets. The text
of a version 6 address has lower-case digits and its longest run of zeros shortened.

`serve` listens at the address of a socket.
-/

namespace ResourceOperator.Net

/-- The value of decimal digits. -/
def decimal (digits : List Char) : Nat :=
  digits.foldl (fun n c => n * 10 + (c.toNat - '0'.toNat)) 0

/-- An address of version 4, as one number. -/
structure Ipv4 where
  bits : Nat
  deriving DecidableEq, Repr

/-- An address of version 6, as eight groups of 16 bits. -/
structure Ipv6 where
  groups : List Nat
  deriving DecidableEq, Repr

namespace Ipv4

/-- One part of an address between dots: up to three digits without a leading zero. -/
def part? (cs : List Char) : Option Nat :=
  if cs.isEmpty || 3 < cs.length || !cs.all Char.isDigit then none
  else if 1 < cs.length && cs.head? == some '0' then none
  else if decimal cs ≤ 255 then some (decimal cs) else none

/-- Reads four decimal numbers between dots. -/
def parse? (cs : List Char) : Option Ipv4 := do
  let parts ← (Text.splitAll ['.'] cs).mapM part?
  if parts.length = 4 then some ⟨parts.foldl (fun n p => n * 256 + p) 0⟩ else none

/-- The four numbers of an address. -/
def parts (a : Ipv4) : List Nat :=
  [a.bits / 16777216 % 256, a.bits / 65536 % 256, a.bits / 256 % 256, a.bits % 256]

/-- The text of an address. -/
def text (a : Ipv4) : String :=
  ".".intercalate (a.parts.map toString)

end Ipv4

namespace Ipv6

/-- The value of a group of up to four hexadecimal digits. -/
def group? (cs : List Char) : Option Nat :=
  let digit? := fun (c : Char) =>
    if c.isDigit then some (c.toNat - 48)
    else if 'a' ≤ c ∧ c ≤ 'f' then some (c.toNat - 87)
    else if 'A' ≤ c ∧ c ≤ 'F' then some (c.toNat - 55)
    else none
  if cs.isEmpty || 4 < cs.length then none
  else (cs.mapM digit?).map fun ds => ds.foldl (fun n d => n * 16 + d) 0

/-- Groups between colons; the last may be an address of version 4. -/
def groups? (cs : List Char) : Option (List Nat) :=
  if cs.isEmpty then some []
  else
    let pieces := Text.splitAll [':'] cs
    match pieces.getLast? with
    | none => none
    | some final => do
      let lead ← pieces.dropLast.mapM group?
      match Ipv4.parse? final with
      | some a => some (lead ++ [a.bits / 65536, a.bits % 65536])
      | none => some (lead ++ [← group? final])

/-- Reads eight groups, of which one run of zeros may be left out. -/
def parse? (cs : List Char) : Option Ipv6 :=
  match Text.cutAt [':', ':'] cs with
  | none => do
    let groups ← groups? cs
    if groups.length = 8 then some ⟨groups⟩ else none
  | some (before, after) => do
    let left ← groups? before
    let right ← groups? after
    if before.contains '.' then none
    else if left.length + right.length ≤ 7 then
      some ⟨left ++ List.replicate (8 - left.length - right.length) 0 ++ right⟩
    else none

/-- The length of the run of zeros at the start. -/
def zeros (groups : List Nat) : Nat :=
  (groups.takeWhile (· == 0)).length

/-- The first longest run of zeros, as its place and its length. -/
def longestRun (groups : List Nat) : Nat × Nat :=
  (List.range groups.length).foldl (fun best i =>
    let n := zeros (groups.drop i)
    if best.2 < n then (i, n) else best) (0, 0)

/-- Groups in lower-case hexadecimal digits between colons. -/
def groupsText (groups : List Nat) : String :=
  ":".intercalate (groups.map fun g => String.ofList (Nat.toDigits 16 g))

/-- The text of an address. One that holds an address of version 4 shows it as such. -/
def text (a : Ipv6) : String :=
  match a.groups with
  | [0, 0, 0, 0, 0, 0xFFFF, high, low] => "::ffff:" ++ (Ipv4.mk (high * 65536 + low)).text
  | groups =>
    let (start, length) := longestRun groups
    if length < 2 then groupsText groups
    else groupsText (groups.take start) ++ "::" ++ groupsText (groups.drop (start + length))

end Ipv6

/-- An address of a socket: a host and a channel on it. A version 6 address may have a scope. -/
inductive SocketAddress where
  | v4 (address : Ipv4) (channel : Nat)
  | v6 (address : Ipv6) (scope : Nat) (channel : Nat)
  deriving DecidableEq, Repr

namespace SocketAddress

/-- A decimal number up to a bound. -/
def number? (bound : Nat) (cs : List Char) : Option Nat :=
  if cs.isEmpty || !cs.all Char.isDigit then none
  else if decimal cs ≤ bound then some (decimal cs) else none

/-- The number of a channel. -/
def channel? (cs : List Char) : Option Nat :=
  number? 65535 cs

/-- Reads an address in brackets, with an optional scope, and a channel after it. -/
def bracketed? (cs : List Char) : Option SocketAddress := do
  let (inside, rest) ← Text.cutAt [']'] cs
  let (host, scope) := match Text.cutAt ['%'] inside with
    | some (host, scope) => (host, some scope)
    | none => (inside, none)
  let address ← Ipv6.parse? host
  let scope ← match scope with
    | none => some 0
    | some digits => number? 4294967295 digits
  match rest with
  | ':' :: channel => some (.v6 address scope (← channel? channel))
  | _ => none

/-- Reads the address of a socket. -/
def parse? (s : String) : Option SocketAddress :=
  match s.toList with
  | '[' :: cs => bracketed? cs
  | cs => do
    let (host, channel) ← Text.cutAt [':'] cs
    some (.v4 (← Ipv4.parse? host) (← channel? channel))

/-- The text of a socket address. -/
def text : SocketAddress → String
  | .v4 a channel => a.text ++ ":" ++ toString channel
  | .v6 a scope channel =>
    let zone := if scope = 0 then "" else "%" ++ toString scope
    "[" ++ a.text ++ zone ++ "]:" ++ toString channel

end SocketAddress

end ResourceOperator.Net
