/-!
# Quoted text for diagnostics

A text between double quotes, with escapes for quotes, backslashes and every character that does
not show: controls, format characters, separators other than the blank, private and combining ones.
-/

namespace ResourceOperator.Text.Quoted

/-- Ranges of characters that are written by their code: controls, separators, format characters,
combining marks, surrogate and private areas. -/
def hiddenRanges : List (Nat × Nat) :=
  [(0x00, 0x1F), (0x7F, 0xA0), (0xAD, 0xAD), (0x300, 0x36F), (0x378, 0x379), (0x483, 0x489),
    (0x591, 0x5BD), (0x5BF, 0x5BF), (0x5C1, 0x5C2), (0x5C4, 0x5C5), (0x600, 0x605), (0x610, 0x61A),
    (0x61C, 0x61C), (0x64B, 0x65F), (0x670, 0x670), (0x6DD, 0x6DD), (0x93C, 0x93C), (0x94D, 0x94D),
    (0xE31, 0xE31), (0xE34, 0xE3A), (0x1680, 0x1680), (0x180B, 0x180F), (0x1AB0, 0x1ACE),
    (0x1DC0, 0x1DFF), (0x2000, 0x200F), (0x2028, 0x202F), (0x205F, 0x2071), (0x20D0, 0x20F0),
    (0x3000, 0x3000), (0x302A, 0x302F), (0x3099, 0x309A), (0xD800, 0xF8FF), (0xFB1E, 0xFB1E),
    (0xFE00, 0xFE0F), (0xFE20, 0xFE2F), (0xFEFF, 0xFEFF), (0xFFF0, 0xFFFB), (0xFFFE, 0xFFFF),
    (0x1D165, 0x1D182), (0xE0000, 0x10FFFF)]

/-- A character that is written by its code. -/
def hidden (c : Char) : Bool :=
  hiddenRanges.any fun r => r.1 ≤ c.toNat && c.toNat ≤ r.2

/-- One character between the quotes. -/
def escapeChar (c : Char) : List Char :=
  match c with
  | '\x00' => ['\\', '0']
  | '\t' => ['\\', 't']
  | '\n' => ['\\', 'n']
  | '\r' => ['\\', 'r']
  | '"' => ['\\', '"']
  | '\\' => ['\\', '\\']
  | c =>
    if hidden c then '\\' :: 'u' :: '{' :: (Nat.toDigits 16 c.toNat ++ ['}']) else [c]

/-- A text between quotes. -/
def quote (s : String) : String :=
  String.ofList ('"' :: (s.toList.flatMap escapeChar ++ ['"']))

end ResourceOperator.Text.Quoted
