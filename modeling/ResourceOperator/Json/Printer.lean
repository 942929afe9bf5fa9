import ResourceOperator.Json.Basic

/-!
# Compact JSON text

`Json.render` writes a document without blanks, members in the order of the table. Text escapes the
quote, the backslash and control characters, and keeps every other character as it is.
-/

namespace ResourceOperator

/-- The text of a JSON number. -/
def Number.render : Number → String
  | .int i => toString i
  | .double d => d.text

namespace Json

/-- A hexadecimal digit, lower case. -/
def hexDigit (n : Nat) : Char :=
  Nat.digitChar n

/-- A character inside a JSON string. -/
def escapeChar (c : Char) : List Char :=
  match c with
  | '"' => ['\\', '"']
  | '\\' => ['\\', '\\']
  | '\n' => ['\\', 'n']
  | '\r' => ['\\', 'r']
  | '\t' => ['\\', 't']
  | '\x08' => ['\\', 'b']
  | '\x0c' => ['\\', 'f']
  | c =>
    if c.toNat < 0x20 then ['\\', 'u', '0', '0', hexDigit (c.toNat / 16), hexDigit (c.toNat % 16)]
    else [c]

/-- A JSON string with its quotes. -/
def quote (s : String) : String :=
  String.ofList ('"' :: (s.toList.flatMap escapeChar ++ ['"']))

mutual

/-- The compact text of a document. -/
def render : Json → String
  | .null => "null"
  | .bool true => "true"
  | .bool false => "false"
  | .number n => n.render
  | .string s => quote s
  | .array items => "[" ++ renderItems items ++ "]"
  | .object members => "\x7b" ++ renderMembers members ++ "\x7d"

/-- Items separated by commas. -/
def renderItems : List Json → String
  | [] => ""
  | [x] => render x
  | x :: y :: rest => render x ++ "," ++ renderItems (y :: rest)

/-- Members separated by commas. -/
def renderMembers : List (String × Json) → String
  | [] => ""
  | [(k, v)] => quote k ++ ":" ++ render v
  | (k, v) :: e :: rest => quote k ++ ":" ++ render v ++ "," ++ renderMembers (e :: rest)

end

end Json

end ResourceOperator
