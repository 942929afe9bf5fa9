import ResourceOperator.Number.Extended
import ResourceOperator.Template.Failure
import ResourceOperator.Text.Search

/-!
# Tokens of a template

A template is plain text with marked parts: output between double braces, tags between braces and
percent signs. Only inside a marked part are there names, values and symbols. `scan` gives the
tokens of a template.

* A backslash in a string literal stands before a quote, a backslash, a slash, one of the letters
  `b f n r t`, or a character code: `u` with four hexadecimal digits (two surrogates together are
  one character), `x` with two, or up to three octal digits.
* Whole numbers are in base ten, or after `0x`, `0o` and `0b` in bases sixteen, eight and two;
  decimal numbers have a fraction or an exponent. Underscores may stand between the digits.
* A sign `-` inside a marker removes the blanks on its outer side, comments leave nothing, raw
  blocks are text, and one line end at the very end is not part of the template.
-/

namespace ResourceOperator.Template

/-- A token. `broken` ends the tokens of a template that cannot be read to its end. -/
inductive Token where
  | text (value : String)
  | outputStart
  | outputEnd
  | tagStart
  | tagEnd
  | name (value : String)
  | string (value : String)
  | integer (value : Nat)
  | decimal (value : Extended)
  | symbol (value : String)
  | broken (failure : Failure)
  deriving DecidableEq, Repr

namespace Token

/-! ## Escapes -/

/-- The value of a hexadecimal digit. -/
def hexValue? (c : Char) : Option Nat :=
  if c.isDigit then some (c.toNat - 48)
  else if 'a' ≤ c ∧ c ≤ 'f' then some (c.toNat - 87)
  else if 'A' ≤ c ∧ c ≤ 'F' then some (c.toNat - 55)
  else none

/-- The number that exactly `count` hexadecimal digits denote, and the rest. -/
def hexDigits? : Nat → Nat → List Char → Option (Nat × List Char)
  | 0, n, cs => some (n, cs)
  | _ + 1, _, [] => none
  | count + 1, n, c :: cs => match hexValue? c with
    | some d => hexDigits? count (n * 16 + d) cs
    | none => none

/-- Up to `count` octal digits. -/
def octalDigits : Nat → Nat → List Char → Nat × List Char
  | 0, n, cs => (n, cs)
  | _ + 1, n, [] => (n, [])
  | count + 1, n, c :: cs =>
    if '0' ≤ c ∧ c ≤ '7' then octalDigits count (n * 8 + (c.toNat - 48)) cs else (n, c :: cs)

/-- The character of a simple escape. -/
def simpleEscape? (c : Char) : Option Char :=
  match c with
  | '"' => some '"'
  | '\\' => some '\\'
  | '/' => some '/'
  | '\'' => some '\''
  | 'b' => some '\x08'
  | 'f' => some '\x0c'
  | 'n' => some '\n'
  | 'r' => some '\r'
  | 't' => some '\t'
  | _ => none

/-- Whether a code is a surrogate. -/
def isSurrogate (n : Nat) : Bool :=
  0xD800 ≤ n && n ≤ 0xDFFF

/-- The characters of a string literal; `fuel` bounds their number. -/
def unescapeFrom : Nat → List Char → Option (List Char)
  | 0, _ => some []
  | _ + 1, [] => some []
  | fuel + 1, '\\' :: c :: cs =>
    match simpleEscape? c with
    | some d => (unescapeFrom fuel cs).map (d :: ·)
    | none =>
      if c = 'u' then do
        let (n, cs) ← hexDigits? 4 0 cs
        if !isSurrogate n then (unescapeFrom fuel cs).map (Char.ofNat n :: ·)
        else match cs with
          | '\\' :: 'u' :: cs => do
            let (m, cs) ← hexDigits? 4 0 cs
            if n < 0xDC00 ∧ 0xDC00 ≤ m ∧ m ≤ 0xDFFF then
              let code := 0x10000 + (n - 0xD800) * 1024 + (m - 0xDC00)
              (unescapeFrom fuel cs).map (Char.ofNat code :: ·)
            else none
          | _ => none
      else if c = 'x' then do
        let (n, cs) ← hexDigits? 2 0 cs
        (unescapeFrom fuel cs).map (Char.ofNat n :: ·)
      else if '0' ≤ c ∧ c ≤ '7' then
        let (n, cs) := octalDigits 3 0 (c :: cs)
        (unescapeFrom fuel cs).map (Char.ofNat n :: ·)
      else none
  | _ + 1, ['\\'] => none
  | fuel + 1, c :: cs => (unescapeFrom fuel cs).map (c :: ·)

/-- The characters that a string literal stands for. -/
def unescape (cs : List Char) : Except Failure (List Char) :=
  match unescapeFrom cs.length cs with
  | some chars => .ok chars
  | none => .error .badEscape

/-! ## Numerals -/

/-- What has been read of a decimal numeral. -/
inductive NumeralPart where
  | whole
  | fraction
  | exponentMark
  | exponent
  deriving DecidableEq

/-- The part after one more character, unless the character ends the numeral. -/
def NumeralPart.step (part : NumeralPart) (c : Char) : Option NumeralPart :=
  if c = '_' then some part
  else if c.isDigit then some (if part = .exponentMark then .exponent else part)
  else if c = '.' ∧ part = .whole then some .fraction
  else if (c = 'e' ∨ c = 'E') ∧ (part = .whole ∨ part = .fraction) then some .exponentMark
  else if (c = '+' ∨ c = '-') ∧ part = .exponentMark then some .exponent
  else none

/-- The longest numeral at the start, its last part and the rest. -/
def spanNumeral (part : NumeralPart) : List Char → List Char × NumeralPart × List Char
  | [] => ([], part, [])
  | c :: cs => match part.step c with
    | none => ([], part, c :: cs)
    | some next =>
      let (numeral, last, rest) := spanNumeral next cs
      (c :: numeral, last, rest)

/-- The value of digits in a base. -/
def natValue (base : Nat) (cs : List Char) : Nat :=
  cs.foldl (fun n c =>
    n * base + (if c.isDigit then c.toNat - 48 else c.toLower.toNat - 87)) 0

/-- A whole number, which has at most 128 bits. -/
def wholeToken (base : Nat) (digits : List Char) : Token :=
  let n := natValue base digits
  if digits.isEmpty ∨ Nat.pow 2 128 ≤ n then .broken .badSyntax else .integer n

/-- A number with a fraction or an exponent. -/
def decimalToken (cs : List Char) : Token :=
  let whole := cs.takeWhile Char.isDigit
  let rest := cs.dropWhile Char.isDigit
  let (fraction, rest) := match rest with
    | '.' :: rest => (rest.takeWhile Char.isDigit, rest.dropWhile Char.isDigit)
    | rest => ([], rest)
  let digits := natValue 10 (whole ++ fraction)
  let places : Int := fraction.length
  match rest with
  | [] => .decimal (Extended.ofDecimal digits (-places))
  | _ :: mark =>
    let (negative, power) := match mark with
      | '-' :: power => (true, power)
      | '+' :: power => (false, power)
      | power => (false, power)
    if power.isEmpty ∨ !power.all Char.isDigit then .broken .badSyntax
    else
      let n : Int := natValue 10 power
      .decimal (Extended.ofDecimal digits ((if negative then -n else n) - places))

/-- A numeral without its underscores; it must not end in one. -/
def withoutUnderscores? (cs : List Char) : Option (List Char) :=
  if cs.getLast? = some '_' then none else some (cs.filter (· != '_'))

/-- The digits of a base, with underscores. -/
def isBaseDigit (base : Nat) (c : Char) : Bool :=
  c == '_' ||
    (if base = 16 then c.isDigit || ('a' ≤ c && c ≤ 'f') || ('A' ≤ c && c ≤ 'F')
     else '0' ≤ c && c.toNat < 48 + base)

/-- Reads the numeral at the start of a text. -/
def numeral (cs : List Char) : Token × List Char :=
  let inBase := fun (base : Nat) (cs : List Char) =>
    let token := match withoutUnderscores? (cs.takeWhile (isBaseDigit base)) with
      | some digits => wholeToken base digits
      | none => .broken .badSyntax
    (token, cs.dropWhile (isBaseDigit base))
  match cs with
  | '0' :: 'x' :: rest | '0' :: 'X' :: rest => inBase 16 rest
  | '0' :: 'o' :: rest | '0' :: 'O' :: rest => inBase 8 rest
  | '0' :: 'b' :: rest | '0' :: 'B' :: rest => inBase 2 rest
  | cs =>
    let (numeral, last, rest) := spanNumeral .whole cs
    let token := match withoutUnderscores? numeral with
      | some digits => if last = .whole then wholeToken 10 digits else decimalToken digits
      | none => .broken .badSyntax
    (token, rest)

end Token

/-! ## Scanning -/

open Token (numeral unescape)

/-- Blank characters inside a marked part. -/
def isInnerBlank (c : Char) : Bool :=
  c == ' ' || c == '\t' || c == '\n' || c == '\r' || c == '\x0c'

/-- The kinds of marked parts. -/
inductive Mark where
  | output
  | tag
  | comment
  deriving DecidableEq

/-- The text before the first marker, the marker and what follows it. -/
def spanText : List Char → List Char × Option (Mark × List Char)
  | [] => ([], none)
  | '{' :: '{' :: cs => ([], some (.output, cs))
  | '{' :: '%' :: cs => ([], some (.tag, cs))
  | '{' :: '#' :: cs => ([], some (.comment, cs))
  | c :: cs =>
    let (text, next) := spanText cs
    (c :: text, next)

/-- Takes a sign for blanks off the start; whether it was `-`. -/
def takeSign : List Char → Bool × List Char
  | '-' :: cs => (true, cs)
  | '+' :: cs => (false, cs)
  | cs => (false, cs)

/-- After a tag start: the tag with this name alone, whether blanks are removed before and after it,
and the text that follows. -/
def bareTag? (name : String) (cs : List Char) : Option (Bool × Bool × List Char) :=
  let (trimBefore, cs) := takeSign cs
  let cs := cs.dropWhile isInnerBlank
  if name.toList.isPrefixOf cs then
    let cs := (cs.drop name.length).dropWhile isInnerBlank
    match takeSign cs with
    | (trimAfter, '%' :: '}' :: rest) => some (trimBefore, trimAfter, rest)
    | _ => none
  else none

/-- The text of a raw block, whether blanks are removed before and after its end, and what follows
it; `none` when it has no end. -/
def spanRaw : List Char → Option (List Char × Bool × Bool × List Char)
  | [] => none
  | '{' :: '%' :: cs => match bareTag? "endraw" cs with
    | some (before, after, rest) => some ([], before, after, rest)
    | none => (spanRaw cs).map fun (text, r) => ('{' :: '%' :: text, r)
  | c :: cs => (spanRaw cs).map fun (text, r) => (c :: text, r)

/-- A text token, unless it is empty. -/
def textToken (cs : List Char) : List Token :=
  if cs.isEmpty then [] else [.text (String.ofList cs)]

/-- Symbols of two characters. -/
def longSymbols : List String :=
  ["//", "**", "==", "!=", ">=", "<="]

/-- Symbols of one character. -/
def shortSymbols : List Char :=
  ['+', '-', '*', '/', '%', '.', ',', ':', '~', '|', '=', '>', '<', '(', ')', '[', ']', '{', '}']

/-- A character that starts a name. -/
def isNameStart (c : Char) : Bool :=
  c.isAlpha || c == '_'

/-- A character of a name. -/
def isNamePart (c : Char) : Bool :=
  c.isAlphanum || c == '_'

/-- The inside of a string literal and what follows its closing quote. -/
def spanString (quote : Char) : List Char → Option (List Char × List Char)
  | [] => none
  | '\\' :: c :: cs => (spanString quote cs).map fun (s, r) => ('\\' :: c :: s, r)
  | c :: cs =>
    if c = quote then some ([], cs) else (spanString quote cs).map fun (s, r) => (c :: s, r)

/-- A string literal after its opening quote. -/
def stringToken (quote : Char) (cs : List Char) : Token × List Char :=
  match spanString quote cs with
  | none => (.broken .badSyntax, [])
  | some (inside, rest) =>
    match unescape inside with
    | .ok text => (.string (String.ofList text), rest)
    | .error e => (.broken e, [])

/-- One token inside a marked part. -/
def innerToken : List Char → Token × List Char
  | [] => (.broken .badSyntax, [])
  | c :: cs =>
    match longSymbols.find? fun s => s.toList.isPrefixOf (c :: cs) with
    | some s => (.symbol s, (c :: cs).drop 2)
    | none =>
      if shortSymbols.contains c then (.symbol (String.singleton c), cs)
      else if c = '"' ∨ c = '\'' then stringToken c cs
      else if c.isDigit then numeral (c :: cs)
      else if isNameStart c then
        (.name (String.ofList ((c :: cs).takeWhile isNamePart)), (c :: cs).dropWhile isNamePart)
      else (.broken .badSyntax, [])

/-- The end marker of a part at the start of the text: whether it removes blanks, and the rest. -/
def partEnd? (mark : Mark) (cs : List Char) : Option (Bool × List Char) :=
  match mark, takeSign cs with
  | .output, (trim, '}' :: '}' :: rest) => some (trim, rest)
  | .tag, (trim, '%' :: '}' :: rest) => some (trim, rest)
  | _, _ => none

/-- How a token changes the number of open brackets. -/
def balance : Token → Int
  | .symbol s =>
    if s == "(" || s == "[" || s == "\x7b" then 1
    else if s == ")" || s == "]" || s == "\x7d" then -1
    else 0
  | _ => 0

/-- Where the scanner stands: in text, which loses its leading blanks or not, or in a marked part
with some open brackets. -/
inductive Place where
  | text (trim : Bool)
  | inside (mark : Mark) (depth : Int)

/-- The tokens from a place on; `fuel` bounds their number. -/
def scanFrom : Nat → Place → List Char → List Token
  | 0, _, _ => []
  | fuel + 1, .text trim, cs =>
    let cs := if trim then Text.trimStart cs else cs
    match spanText cs with
    | (text, none) => textToken text
    | (text, some (mark, rest)) =>
      let (trimBefore, inner) := takeSign rest
      let lead := textToken (if trimBefore then Text.trimEnd text else text)
      match mark with
      | .comment => match Text.cutAt ['#', '}'] rest with
        | none => lead ++ [.broken .badSyntax]
        | some (comment, rest) => lead ++ scanFrom fuel (.text (comment.getLast? == some '-')) rest
      | .output => lead ++ .outputStart :: scanFrom fuel (.inside .output 0) inner
      | .tag => match bareTag? "raw" rest with
        | none => lead ++ .tagStart :: scanFrom fuel (.inside .tag 0) inner
        | some (_, trimStart, body) => match spanRaw body with
          | none => lead ++ [.broken .badSyntax]
          | some (raw, trimEnd, trimAfter, rest) =>
            let raw := if trimStart then Text.trimStart raw else raw
            let raw := if trimEnd then Text.trimEnd raw else raw
            lead ++ textToken raw ++ scanFrom fuel (.text trimAfter) rest
  | fuel + 1, .inside mark depth, cs =>
    match cs.dropWhile isInnerBlank with
    | [] => []
    | c :: cs =>
      match if depth = 0 then partEnd? mark (c :: cs) else none with
      | some (trim, rest) =>
        (if mark = .output then .outputEnd else .tagEnd) :: scanFrom fuel (.text trim) rest
      | none => match innerToken (c :: cs) with
        | (.broken e, _) => [.broken e]
        | (token, rest) => token :: scanFrom fuel (.inside mark (depth + balance token)) rest

/-- A template without one line end at its end. -/
def withoutLineEnd (cs : List Char) : List Char :=
  match cs.reverse with
  | '\n' :: '\r' :: rest => rest.reverse
  | '\n' :: rest => rest.reverse
  | _ => cs

/-- The tokens of a template. -/
def Token.scan (template : String) : List Token :=
  let cs := withoutLineEnd template.toList
  scanFrom (cs.length + 1) (.text false) cs

end ResourceOperator.Template
