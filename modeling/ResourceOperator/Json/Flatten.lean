import ResourceOperator.Json.Printer

/-!
# Flattening a document into dotted keys

`flatten` turns a document into a table with one entry per scalar, under the names and indices that
lead to it, joined by dots. A scalar at the root has no key and gives no entry; of two scalars with
the same dotted key the later one in walk order counts.

`flattenInto` is `flatten_into`, `joinKey` is `join`, and `leafText` is `leaf_text`.
-/

namespace ResourceOperator.Json

/-- The dotted key of a step below a prefix; an empty one adds no dot. -/
def joinKey (path name : String) : String :=
  if path.isEmpty then name else path ++ "." ++ name

/-- The text of a scalar: strings as they are, null as the empty text. -/
def leafText : Json → String
  | .string s => s
  | .null => ""
  | v => v.render

mutual

/-- Adds the scalars of a document below a path. -/
def flattenInto (path : String) (table : Table String) : Json → Table String
  | .object members => flattenMembers path table members
  | .array items => flattenItems path 0 table items
  | .null => addLeaf path table .null
  | .bool b => addLeaf path table (.bool b)
  | .number n => addLeaf path table (.number n)
  | .string s => addLeaf path table (.string s)

/-- Adds one scalar under its path. -/
def addLeaf (path : String) (table : Table String) (leaf : Json) : Table String :=
  if path.isEmpty then table else Table.insert path leaf.leafText table

/-- Adds the scalars of array items, from an index on. -/
def flattenItems (path : String) (index : Nat) (table : Table String) : List Json → Table String
  | [] => table
  | x :: xs =>
    flattenItems path (index + 1) (flattenInto (joinKey path (toString index)) table x) xs

/-- Adds the scalars of object members, in key order. -/
def flattenMembers (path : String) (table : Table String) :
    List (String × Json) → Table String
  | [] => table
  | (k, v) :: rest => flattenMembers path (flattenInto (joinKey path k) table v) rest

end

/-- The scalars of a document under dotted keys. -/
def flatten (document : Json) : Table String :=
  flattenInto "" [] document

end ResourceOperator.Json
