/-!
# Searching and cutting a text

* Blanks are the characters with the Unicode property White_Space; `trim` takes them off both ends.
* A text is cut at a separator. Ids of remote objects are last segments of longer names, so most of
  these operations are on the end of a text, or on its first separator.
* Occurrences of one character list in another: the first one, all of them without overlap, and the
  pieces between them. The empty list occurs before every character and at the end.

`canonical_id` cuts texts so, and `from_secret` trims them.
-/

namespace ResourceOperator.Text

/-! ## Blanks -/

/-- A character with the property White_Space. -/
def isBlank (c : Char) : Bool :=
  let n := c.toNat
  (9 ≤ n && n ≤ 13) || n == 0x20 || n == 0x85 || n == 0xA0 || n == 0x1680 ||
    (0x2000 ≤ n && n ≤ 0x200A) || n == 0x2028 || n == 0x2029 || n == 0x202F || n == 0x205F ||
    n == 0x3000

/-- Characters without the blanks at their start. -/
def trimStart (cs : List Char) : List Char :=
  cs.dropWhile isBlank

/-- Characters without the blanks at their end. -/
def trimEnd (cs : List Char) : List Char :=
  (cs.reverse.dropWhile isBlank).reverse

/-- A text without the blanks around it. -/
def trim (s : String) : String :=
  String.ofList (trimEnd (trimStart s.toList))

/-! ## Segments -/

/-- Drops every trailing occurrence of a character. -/
def dropTrailing (c : Char) (s : String) : String :=
  String.ofList (s.toList.reverse.dropWhile (· == c)).reverse

/-- What stands after the last separator; the whole text when there is none. -/
def lastSegment (sep : Char) (s : String) : String :=
  String.ofList (s.toList.reverse.takeWhile (· != sep)).reverse

/-- The two sides of the first separator, when there is one. -/
def splitFirst (sep : Char) (cs : List Char) : Option (List Char × List Char) :=
  match cs.dropWhile (· != sep) with
  | [] => none
  | _ :: rest => some (cs.takeWhile (· != sep), rest)

/-- The pieces between separators; at least one, which may be empty. -/
def pieces (sep : Char) : List Char → List (List Char)
  | [] => [[]]
  | c :: cs =>
    if c = sep then [] :: pieces sep cs
    else match pieces sep cs with
      | [] => [[c]]
      | piece :: rest => (c :: piece) :: rest

/-! ## Occurrences -/

/-- The characters before the first occurrence and after it. -/
def cutAt (needle : List Char) : List Char → Option (List Char × List Char)
  | [] => if needle.isEmpty then some ([], []) else none
  | c :: cs =>
    if needle.isPrefixOf (c :: cs) then some ([], (c :: cs).drop needle.length)
    else (cutAt needle cs).map fun (before, after) => (c :: before, after)

/-- Whether one list occurs in another. -/
def occurs (needle text : List Char) : Bool :=
  (cutAt needle text).isSome

/-- The pieces between occurrences of a list that is not empty; at most `pieces + 1` of them. -/
def splitAtMost (needle : List Char) : Nat → List Char → List (List Char)
  | 0, text => [text]
  | pieces + 1, text => match cutAt needle text with
    | none => [text]
    | some (before, after) => before :: splitAtMost needle pieces after

/-- The pieces between all occurrences. Between the occurrences of the empty list lies one
character each. -/
def splitAll (needle text : List Char) : List (List Char) :=
  if needle.isEmpty then [] :: (text.map ([·]) ++ [[]])
  else splitAtMost needle text.length text

/-- The pieces between the first occurrences, `count` pieces in all. -/
def splitFew (needle text : List Char) (count : Nat) : List (List Char) :=
  if count = 0 then []
  else if needle.isEmpty then
    let all := splitAll needle text
    if all.length ≤ count then all
    else all.take (count - 1) ++ [(all.drop (count - 1)).flatten]
  else splitAtMost needle (count - 1) text

/-- Puts one text in the place of every occurrence of another. -/
def replaceAll (needle replacement text : List Char) : List Char :=
  List.intercalate replacement (splitAll needle text)

/-- The runs of characters that satisfy no separator test. -/
def words (isSeparator : Char → Bool) : List Char → List (List Char)
  | [] => []
  | c :: cs =>
    if isSeparator c then words isSeparator cs
    else match cs, words isSeparator cs with
      | [], _ => [[c]]
      | d :: _, rest =>
        if isSeparator d then [c] :: rest
        else match rest with
          | [] => [[c]]
          | w :: ws => (c :: w) :: ws

/-- Lines of a text without their ends; a last line that is empty is none. -/
def lines (text : List Char) : List (List Char) :=
  let pieces := splitAll ['\n'] text
  let pieces := if pieces.getLast? = some [] then pieces.dropLast else pieces
  pieces.map fun line =>
    match line.reverse with
    | '\r' :: rest => rest.reverse
    | _ => line

end ResourceOperator.Text
