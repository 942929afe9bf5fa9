import ResourceOperator.Template.Value.Order
import ResourceOperator.Text.Quoted

/-!
# The text of a value

A text prints as it is. Inside containers texts stand between quotes, lists in square brackets and
maps in braces, in the order of their keys.
-/

namespace ResourceOperator.Template.Value

/-- The text of a truth value. -/
def truthText (b : Bool) : String :=
  if b then "True" else "False"

/-- Parts between an opening and a closing bracket. -/
def bracketed (opening closing : String) (parts : List String) : String :=
  opening ++ ", ".intercalate parts ++ closing

mutual

/-- The text of a value inside a container. -/
def nested : Value → String
  | .undefined _ => "undefined"
  | .none => "None"
  | .bool b => truthText b
  | .int i => toString i
  | .float x => x.nested
  | .string s _ => Text.Quoted.quote s
  | .list _ items => bracketed "[" "]" (nestedItems items)
  | .map entries => bracketed "\x7b" "\x7d" (nestedEntries entries)
  | .named entries => bracketed "\x7b" "\x7d" (nestedNamed entries)
  | .group key items =>
    bracketed "[" "]" [nested key, bracketed "[" "]" (nestedItems items)]
  | .loop index length _ _ _ _ => s!"<loop {index}/{length}>"
  | .callable name _ _ => s!"<macro {name}>"
  | .function name => s!"<function {name}>"
  | .space _ => "\x7b\x7d"

/-- The texts of items. -/
def nestedItems : List Value → List String
  | [] => []
  | x :: xs => nested x :: nestedItems xs

/-- The texts of entries. -/
def nestedEntries : List (Value × Value) → List String
  | [] => []
  | (k, v) :: rest => (nested k ++ ": " ++ nested v) :: nestedEntries rest

/-- The texts of named entries. -/
def nestedNamed : List (String × Value) → List String
  | [] => []
  | (k, v) :: rest => (Text.Quoted.quote k ++ ": " ++ nested v) :: nestedNamed rest

end

/-- The text of a value as output. -/
def text : Value → String
  | .undefined _ => ""
  | .string s _ => s
  | .float x => x.plain
  | v => v.nested

/-- Indents every line after the first. -/
def indentLines (s : String) : String :=
  String.ofList (s.toList.flatMap fun c => if c = '\n' then ['\n', ' ', ' ', ' ', ' '] else [c])

/-- Parts on lines of their own, each followed by a comma. -/
def stacked (opening closing : String) (parts : List String) : String :=
  if parts.isEmpty then opening ++ closing
  else
    let body := String.join (parts.map fun p => "\n    " ++ indentLines p ++ ",")
    opening ++ body ++ "\n" ++ closing

mutual

/-- The text of a value over several lines. -/
def pretty : Value → String
  | .list _ items => stacked "[" "]" (prettyItems items)
  | .map entries => stacked "\x7b" "\x7d" (prettyEntries entries)
  | .named entries => stacked "\x7b" "\x7d" (prettyNamed entries)
  | .group key items => stacked "[" "]" [pretty key, stacked "[" "]" (prettyItems items)]
  | v => v.nested

/-- The texts of items over several lines. -/
def prettyItems : List Value → List String
  | [] => []
  | x :: xs => pretty x :: prettyItems xs

/-- The texts of entries over several lines. -/
def prettyEntries : List (Value × Value) → List String
  | [] => []
  | (k, v) :: rest => (pretty k ++ ": " ++ pretty v) :: prettyEntries rest

/-- The texts of named entries over several lines. -/
def prettyNamed : List (String × Value) → List String
  | [] => []
  | (k, v) :: rest => (Text.Quoted.quote k ++ ": " ++ pretty v) :: prettyNamed rest

end

/-- The replacement of a character in markup. -/
def escapeMarkup (c : Char) : List Char :=
  match c with
  | '<' => "&lt;".toList
  | '>' => "&gt;".toList
  | '&' => "&amp;".toList
  | '"' => "&quot;".toList
  | '\'' => "&#x27;".toList
  | '/' => "&#x2f;".toList
  | c => [c]

/-- The text of a value in markup. -/
def markup : Value → String
  | .string s true => s
  | v => String.ofList (v.text.toList.flatMap escapeMarkup)

end ResourceOperator.Template.Value
