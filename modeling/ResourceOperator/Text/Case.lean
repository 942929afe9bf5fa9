import ResourceOperator.Text.Case.Table

/-!
# Upper and lower case

Case mappings of whole texts. A character may become several; the Greek sigma at the end of a word
has a lower case of its own.
-/

namespace ResourceOperator.Text

/-- The upper case of one character. -/
def upperChar (c : Char) : List Char :=
  if c.toNat < 128 then [c.toUpper]
  else match Case.upperExpansions.lookup c.toNat with
    | some cs => cs.map Char.ofNat
    | none => match Case.upperShifts.findSome? (·.image? c.toNat) with
      | some n => [Char.ofNat n]
      | none => [c]

/-- The lower case of one character on its own. -/
def lowerChar (c : Char) : List Char :=
  if c.toNat < 128 then [c.toLower]
  else if c.toNat = 0x130 then ['i', Char.ofNat 0x307]
  else match Case.lowerShifts.findSome? (·.image? c.toNat) with
    | some n => [Char.ofNat n]
    | none => [c]

/-- A character with the property Lowercase. -/
def isLowercase (c : Char) : Bool :=
  if c.toNat < 128 then c.isLower else Case.lowerRuns.any (·.contains c.toNat)

/-- A character with the property Uppercase. -/
def isUppercase (c : Char) : Bool :=
  if c.toNat < 128 then c.isUpper else Case.upperRuns.any (·.contains c.toNat)

/-- A character that has a case. -/
def isCased (c : Char) : Bool :=
  isLowercase c || isUppercase c

/-- A character that the rule for the last sigma of a word passes over: marks and signs inside
words. -/
def isCaseIgnorable (c : Char) : Bool :=
  let n := c.toNat
  c == '\'' || c == '.' || c == ':' || c == '^' || c == (Char.ofNat 0x60) || n == 0xA8 ||
    n == 0xAD || n == 0xAF || n == 0xB4 || n == 0xB7 || n == 0xB8 || (0x2B0 ≤ n && n ≤ 0x36F) ||
    (0x200B ≤ n && n ≤ 0x200F) || n == 0x2018 || n == 0x2019 || n == 0x2024 || n == 0x2027

/-- Whether the nearest character that is not passed over has a case. -/
def meetsCased (cs : List Char) : Bool :=
  ((cs.dropWhile isCaseIgnorable).head?.map isCased).getD false

/-- The lower case of characters, given the ones before them in reverse. -/
def lowerFrom (before : List Char) : List Char → List Char
  | [] => []
  | c :: cs =>
    let image := if c = 'Σ' then
        if meetsCased before && !meetsCased cs then ['ς'] else ['σ']
      else lowerChar c
    image ++ lowerFrom (c :: before) cs

/-- A text in lower case. -/
def lower (s : String) : String :=
  String.ofList (lowerFrom [] s.toList)

/-- A text in upper case. -/
def upper (s : String) : String :=
  String.ofList (s.toList.flatMap upperChar)

/-- The first character in upper case, the others in lower case. -/
def capitalize (s : String) : String :=
  match s.toList with
  | [] => ""
  | c :: cs => String.ofList (upperChar c ++ lowerFrom [] cs)

/-- Punctuation of ASCII. -/
def isPunctuation (c : Char) : Bool :=
  let n := c.toNat
  (33 ≤ n && n ≤ 47) || (58 ≤ n && n ≤ 64) || (91 ≤ n && n ≤ 96) || (123 ≤ n && n ≤ 126)

end ResourceOperator.Text
