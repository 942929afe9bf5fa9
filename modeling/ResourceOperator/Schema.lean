import ResourceOperator.Json.Basic

/-!
# Schemas

The form of a document, as the cluster is told it. `Schema.encode` writes a schema in the structural
form: the form of every member stands in one list of properties, also for a choice between members.
-/

namespace ResourceOperator

/-- Whether a member of a record must be there. -/
inductive Presence where
  /-- It must be there. -/
  | required
  /-- It may be absent. -/
  | optional
  /-- It may be absent or null. -/
  | nullable
  /-- It may be absent, and then it has this value. -/
  | defaulted (value : Json)
  deriving DecidableEq, Repr

/-- The form of a document. -/
inductive Schema where
  /-- Any text. -/
  | text
  /-- A truth value. -/
  | flag
  /-- A signed 64-bit integer. -/
  | int64
  /-- One of these texts. -/
  | choice (names : List String)
  /-- An array of documents of one form. -/
  | list (item : Schema)
  /-- An object with any members, all of one form. -/
  | table (value : Schema)
  /-- Any object. -/
  | anyObject
  /-- An object with these members. -/
  | record (members : List (String × Presence × Schema))
  /-- An object with exactly one of these members. -/
  | oneOf (members : List (String × Schema))
  /-- The same form with a description, which replaces one that it has. -/
  | described (description : String) (schema : Schema)
  deriving Repr

namespace Schema

/-- A schema with a type and nothing else. -/
def typed (type : String) (members : List (String × Json)) : Table Json :=
  Table.insert "type" (.string type) (Table.ofList members)

/-- What the presence of a member adds to its schema. -/
def present (presence : Presence) (members : Table Json) : Table Json :=
  match presence with
  | .required => members
  | .optional => members
  | .nullable => Table.insert "nullable" (.bool true) members
  | .defaulted value => Table.insert "default" value members

/-- The names of the members that must be there, in ascending order; nothing if there are none. -/
def requiredMember (names : List String) : List (String × Json) :=
  match Table.keys (Table.ofList (names.map fun n => (n, ()))) with
  | [] => []
  | names => [("required", Json.ofStrings names)]

mutual

/-- The members of a schema in structural form. -/
def members : Schema → Table Json
  | text => typed "string" []
  | flag => typed "boolean" []
  | int64 => typed "integer" [("format", .string "int64")]
  | choice names => typed "string" [("enum", Json.ofStrings names)]
  | list item => typed "array" [("items", .object item.members)]
  | table value => typed "object" [("additionalProperties", .object value.members)]
  | anyObject => typed "object" [("x-kubernetes-preserve-unknown-fields", .bool true)]
  | record ms =>
    typed "object" (("properties", .object (Table.ofList (recordProperties ms))) ::
      requiredMember (ms.filterMap fun m => if m.2.1 = .required then some m.1 else none))
  | oneOf ms =>
    typed "object" [("properties", .object (Table.ofList (choiceProperties ms))),
      ("oneOf", .array (ms.map fun m => .object (requiredMember [m.1])))]
  | described description schema => Table.insert "description" (.string description) schema.members

/-- The properties of a record. -/
def recordProperties : List (String × Presence × Schema) → List (String × Json)
  | [] => []
  | (name, presence, schema) :: rest =>
    (name, .object (present presence schema.members)) :: recordProperties rest

/-- The properties of a choice between members. -/
def choiceProperties : List (String × Schema) → List (String × Json)
  | [] => []
  | (name, schema) :: rest => (name, .object schema.members) :: choiceProperties rest

end

/-- Writes a schema in structural form. -/
def encode (s : Schema) : Json :=
  .object s.members

/-- A member that must be there. -/
def need (name : String) (schema : Schema) : String × Presence × Schema :=
  (name, .required, schema)

/-- A member that may be absent or null. -/
def may (name : String) (schema : Schema) : String × Presence × Schema :=
  (name, .nullable, schema)

/-- A member with a value to use when it is absent. -/
def orElse (name : String) (value : Json) (schema : Schema) : String × Presence × Schema :=
  (name, .defaulted value, schema)

/-- Text with a description. -/
def textFor (description : String) : Schema :=
  described description text

end Schema

end ResourceOperator
