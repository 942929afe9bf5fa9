import ResourceOperator.Json.Draft
import ResourceOperator.Json.Numeral

/-!
# Reading JSON text

`Draft.parse` reads what one document and blanks around it say, and `readText` reads a value out of
that. A part of the text that no value can be read from is no error by itself: it may stand where
nothing is read. Arrays and objects can be read where they nest at most 127 deep.

`Json.parse` reads the text as plain data. Objects become tables, so that of two members with one
name the later counts.

Bodies of the cloud are read by `readText` (`fetch`, `token`), and those of the API server of the
cluster, which writes each member once, by `Json.parse`.
-/

namespace ResourceOperator.Json.Parser

/-- Skips blanks. -/
def skip : List Char → List Char
  | c :: cs => if c = ' ' ∨ c = '\n' ∨ c = '\r' ∨ c = '\t' then skip cs else c :: cs
  | [] => []

/-- The value of a hexadecimal digit. -/
def hexValue (c : Char) : Option Nat :=
  if '0' ≤ c ∧ c ≤ '9' then some (c.toNat - '0'.toNat)
  else if 'a' ≤ c ∧ c ≤ 'f' then some (c.toNat - 'a'.toNat + 10)
  else if 'A' ≤ c ∧ c ≤ 'F' then some (c.toNat - 'A'.toNat + 10)
  else none

/-- Four hexadecimal digits. -/
def hexUnit : List Char → Option (Nat × List Char)
  | a :: b :: c :: d :: rest => do
    let a ← hexValue a
    let b ← hexValue b
    let c ← hexValue c
    let d ← hexValue d
    some (((a * 16 + b) * 16 + c) * 16 + d, rest)
  | _ => none

/-- The character of an escape, after its backslash: `none` for half of a surrogate pair. -/
def escape : List Char → Option (Option Char × List Char)
  | '"' :: r => some (some '"', r)
  | '\\' :: r => some (some '\\', r)
  | '/' :: r => some (some '/', r)
  | 'b' :: r => some (some '\x08', r)
  | 'f' :: r => some (some '\x0c', r)
  | 'n' :: r => some (some '\n', r)
  | 'r' :: r => some (some '\r', r)
  | 't' :: r => some (some '\t', r)
  | 'u' :: r => do
    let (high, r) ← hexUnit r
    if 0xD800 ≤ high ∧ high < 0xDC00 then
      match r with
      | '\\' :: 'u' :: s => do
        let (low, s) ← hexUnit s
        if 0xDC00 ≤ low ∧ low < 0xE000 then
          some (some (Char.ofNat (0x10000 + (high - 0xD800) * 0x400 + (low - 0xDC00))), s)
        else some (none, r)
      | _ => some (none, r)
    else if 0xDC00 ≤ high ∧ high < 0xE000 then some (none, r)
    else some (some (Char.ofNat high), r)
  | _ => none

/-- The rest of a string, after its opening quote; `fuel` bounds the characters. Its text is `none`
where one of its characters is. -/
def chars : Nat → Option (List Char) → List Char → Option (Option String × List Char)
  | 0, _, _ => none
  | fuel + 1, acc, cs => match cs with
    | '"' :: rest => some (acc.map fun acc => String.ofList acc.reverse, rest)
    | '\\' :: rest => match escape rest with
      | some (c, rest) => chars fuel (c.bind fun c => acc.map (c :: ·)) rest
      | none => none
    | c :: rest => if c.toNat < 0x20 then none else chars fuel (acc.map (c :: ·)) rest
    | [] => none

/-- A part of a text, which nothing is read from where there is no value for it. -/
def part (value : Option Draft) : Draft :=
  value.getD .unreadable

/-- An array or object that may nest so deep. -/
def nested (depth : Nat) (value : Draft) : Draft :=
  if depth = 0 then .unreadable else value

mutual

/-- A document from the start of a text. `depth` is how far arrays and objects may still nest. -/
def value (fuel depth : Nat) (text : List Char) : Option (Draft × List Char) :=
  match fuel with
  | 0 => none
  | fuel + 1 => match skip text with
    | '"' :: rest =>
      (chars (rest.length + 1) (some []) rest).map fun (s, r) => (part (s.map .string), r)
    | '[' :: rest => match skip rest with
      | ']' :: rest => some (nested depth (.array []), rest)
      | rest => (items fuel (depth - 1) [] rest).map fun (xs, r) => (nested depth (.array xs), r)
    | '{' :: rest => match skip rest with
      | '}' :: rest => some (nested depth (.object []), rest)
      | rest => (members fuel (depth - 1) (some []) rest).map fun (ms, r) =>
        (nested depth (part (ms.map .object)), r)
    | 't' :: 'r' :: 'u' :: 'e' :: rest => some (.bool true, rest)
    | 'f' :: 'a' :: 'l' :: 's' :: 'e' :: rest => some (.bool false, rest)
    | 'n' :: 'u' :: 'l' :: 'l' :: rest => some (.null, rest)
    | rest => (Numeral.read rest).map fun (n, r) => (part (n.number.map .number), r)

/-- The items of an array that is not empty, up to its closing bracket. -/
def items (fuel depth : Nat) (acc : List Draft) (text : List Char) :
    Option (List Draft × List Char) :=
  match fuel with
  | 0 => none
  | fuel + 1 => match value fuel depth text with
    | none => none
    | some (x, rest) => match skip rest with
      | ',' :: rest => items fuel depth (x :: acc) rest
      | ']' :: rest => some ((x :: acc).reverse, rest)
      | _ => none

/-- The members of an object that is not empty, up to its closing brace: `none` where a name is. -/
def members (fuel depth : Nat) (acc : Option (List (String × Draft))) (text : List Char) :
    Option (Option (List (String × Draft)) × List Char) :=
  match fuel with
  | 0 => none
  | fuel + 1 => match skip text with
    | '"' :: rest => match chars (rest.length + 1) (some []) rest with
      | none => none
      | some (name, rest) => match skip rest with
        | ':' :: rest => match value fuel depth rest with
          | none => none
          | some (v, rest) =>
            let acc := name.bind fun name => acc.map ((name, v) :: ·)
            match skip rest with
            | ',' :: rest => members fuel depth acc rest
            | '}' :: rest => some (acc.map List.reverse, rest)
            | _ => none
        | _ => none
    | _ => none

end

end ResourceOperator.Json.Parser

namespace ResourceOperator.Json

/-- Reads what one document says, with blanks around it. -/
def Draft.parse (text : String) : Option Draft :=
  let cs := text.toList
  match Parser.value (cs.length + 1) 127 cs with
  | some (d, rest) => if (Parser.skip rest).isEmpty then some d else none
  | none => none

/-- Reads a value out of a text. -/
def readText {α : Type} (decode : Draft → Option α) (text : String) : Option α :=
  (Draft.parse text).bind decode

/-- Reads a text as plain data. -/
def parse : String → Option Json :=
  readText any

end ResourceOperator.Json
