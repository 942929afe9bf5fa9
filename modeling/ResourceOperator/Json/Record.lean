import ResourceOperator.Json.Basic

/-!
# Reading records out of documents

A record is read from an object by member names, or from an array by the order of its fields. A
`Reader` takes its fields one after the other out of the `Fields` that are left.

* `required`: a field that must be there.
* `optional`: a field that may be absent or null; in an array its place must be filled.
* `lastOptional`, `defaulted`: a field that may be missing altogether, in an array too.

`read` accepts both forms and refuses an array with elements left over; `readObject` accepts objects
only.

What values are read from is a `Document`: plain data, or a text as it stands. Both are read by the
same functions.
-/

namespace ResourceOperator.Json

/-- The outermost form of a document. -/
inductive Shape (D : Type) where
  | null
  | bool (value : Bool)
  | number (value : Number)
  | string (value : String)
  | array (items : List D)
  | object (members : List (String × D))
  | unreadable

/-- What values are read from. -/
class Document (D : Type) where
  shape : D → Shape D
  /-- The member with this name, if there is one. Fails where the members do not tell which. -/
  member? : String → List (String × D) → Option (Option D)
  /-- The whole as plain data. -/
  plain : D → Option Json

/-- The outermost form of plain data. -/
def shape : Json → Shape Json
  | .null => .null
  | .bool b => .bool b
  | .number n => .number n
  | .string s => .string s
  | .array items => .array items
  | .object members => .object members

instance : Document Json where
  shape := shape
  member? name members := some (Table.get? name members)
  plain := some

@[simp] theorem shape_null : Document.shape Json.null = .null := rfl

@[simp] theorem shape_bool (b : Bool) : Document.shape (Json.bool b) = .bool b := rfl

@[simp] theorem shape_number (n : Number) : Document.shape (Json.number n) = .number n := rfl

@[simp] theorem shape_string (s : String) : Document.shape (Json.string s) = .string s := rfl

@[simp] theorem shape_array (items : List Json) :
    Document.shape (Json.array items) = .array items := rfl

@[simp] theorem shape_object (members : List (String × Json)) :
    Document.shape (Json.object members) = .object members := rfl

@[simp] theorem member?_eq (name : String) (members : List (String × Json)) :
    Document.member? name members = some (Table.get? name members) := rfl

@[simp] theorem plain_eq (v : Json) : Document.plain v = some v := rfl

/-- What is left to read of a record: its members by name, or its elements by place. -/
inductive Fields (D : Type) where
  | named (members : List (String × D))
  | placed (items : List D)

/-- Reads part of a record. -/
abbrev Reader (D α : Type) := StateT (Fields D) Option α

variable {D : Type} [Document D]

namespace Reader

variable {α : Type}

/-- Takes the next field out of the record: `none` when it is missing. -/
def next (name : String) : Reader D (Option D) := fun fields =>
  match fields with
  | .named members => (Document.member? name members).map fun v => (v, .named members)
  | .placed [] => some (none, .placed [])
  | .placed (x :: rest) => some (some x, .placed rest)

/-- A field that must be there. -/
def required (name : String) (decode : D → Option α) : Reader D α := do
  match ← next name with
  | some v => StateT.lift (decode v)
  | none => StateT.lift none

/-- Reads a value that may be null. -/
def nullable (decode : D → Option α) (v : D) : Option (Option α) :=
  match Document.shape v with
  | .null => some none
  | _ => (decode v).map some

/-- A field that may be absent from an object or null; an array must have its place. -/
def optional (name : String) (decode : D → Option α) : Reader D (Option α) := fun fields =>
  match fields with
  | .named members => (Document.member? name members).bind fun
    | some v => (nullable decode v).map fun x => (x, .named members)
    | none => some (none, .named members)
  | .placed [] => none
  | .placed (v :: rest) => (nullable decode v).map fun x => (x, .placed rest)

/-- A field with a value to use when it is missing. -/
def defaulted (name : String) (value : α) (decode : D → Option α) : Reader D α := do
  match ← next name with
  | some v => StateT.lift (decode v)
  | none => pure value

/-- A field that may be missing or null in both forms. -/
def lastOptional (name : String) (decode : D → Option α) : Reader D (Option α) :=
  defaulted name none (nullable decode)

/-- Runs a reader on an object. -/
def readObject (reader : Reader D α) (v : D) : Option α :=
  match Document.shape v with
  | .object members => (reader (.named members)).map (·.1)
  | _ => none

/-- Runs a reader on an object, or on an array that it must use up. -/
def read (reader : Reader D α) (v : D) : Option α :=
  match Document.shape v with
  | .object members => (reader (.named members)).map (·.1)
  | .array items => match reader (.placed items) with
    | some (a, .placed []) => some a
    | _ => none
  | _ => none

end Reader

/-- Reads a text. -/
def text (v : D) : Option String :=
  match Document.shape v with
  | .string s => some s
  | _ => none

/-- Reads a truth value. -/
def flag (v : D) : Option Bool :=
  match Document.shape v with
  | .bool b => some b
  | _ => none

/-- Reads an integer between two bounds, both included. -/
def integer (low high : Int) (v : D) : Option Int :=
  match Document.shape v with
  | .number (.int i) => if low ≤ i ∧ i ≤ high then some i else none
  | _ => none

/-- Reads a signed 64-bit integer. -/
def int64 : D → Option Int :=
  integer (-9223372036854775808) 9223372036854775807

/-- Reads every item of an array. -/
def list {α : Type} (decode : D → Option α) (v : D) : Option (List α) :=
  match Document.shape v with
  | .array items => items.mapM decode
  | _ => none

/-- Reads every member value of an object. -/
def table {α : Type} (decode : Json → Option α) : Json → Option (Table α)
  | .object members => members.mapM fun e => (decode e.2).map fun v => (e.1, v)
  | _ => none

/-- Reads any document. -/
def any (v : D) : Option Json :=
  Document.plain v

/-- Reads a name out of a finite choice: as text, or as an object with that one member, null. -/
def choice {α : Type} (named : String → Option α) (v : D) : Option α :=
  match Document.shape v with
  | .string s => named s
  | .object [(s, w)] => match Document.shape w with
    | .null => named s
    | _ => none
  | _ => none

end ResourceOperator.Json
