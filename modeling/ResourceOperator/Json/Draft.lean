import ResourceOperator.Json.Record

/-!
# Documents as they stand in a text

A `Draft` is what a text says before it is taken for a document: its members are in the order of the
text, and names may be repeated. A part that no value can be read from is `unreadable`: a number
beyond every range, a string with half of a surrogate pair, an object with such a name, or an array
or object that nests too deep.

There are two ways to read a draft.
* `settle` takes all of it for a document: every part must be readable, and of two members with one
  name the later one counts.
* A record is read from the members that it names (`Json.Reader`). The others may hold anything, but
  a member that it names must not be repeated.
-/

namespace ResourceOperator.Json

/-- A document as it stands in a text. -/
inductive Draft where
  | null
  | bool (value : Bool)
  | number (value : Number)
  | string (value : String)
  | array (items : List Draft)
  | object (members : List (String × Draft))
  | unreadable
  deriving Repr, Inhabited

namespace Draft

mutual

/-- The document that a draft stands for. -/
def settle : Draft → Option Json
  | .null => some .null
  | .bool b => some (.bool b)
  | .number n => some (.number n)
  | .string s => some (.string s)
  | .array items => (settleItems items).map .array
  | .object members => (settleMembers members).map Json.ofMembers
  | .unreadable => none

/-- The documents that the items of an array stand for. -/
def settleItems : List Draft → Option (List Json)
  | [] => some []
  | d :: rest => do
    let v ← settle d
    let vs ← settleItems rest
    some (v :: vs)

/-- The members that the members of an object stand for. -/
def settleMembers : List (String × Draft) → Option (List (String × Json))
  | [] => some []
  | (name, d) :: rest => do
    let v ← settle d
    let vs ← settleMembers rest
    some ((name, v) :: vs)

end

/-- The member with this name. One that is repeated is refused. -/
def member? (name : String) (members : List (String × Draft)) : Option (Option Draft) :=
  match members.filter (·.1 = name) with
  | [] => some none
  | [e] => some (some e.2)
  | _ => none

/-- The outermost form of a draft. -/
def shape : Draft → Shape Draft
  | .null => .null
  | .bool b => .bool b
  | .number n => .number n
  | .string s => .string s
  | .array items => .array items
  | .object members => .object members
  | .unreadable => .unreadable

instance : Document Draft where
  shape := shape
  member? := member?
  plain := settle

end Draft

end ResourceOperator.Json
