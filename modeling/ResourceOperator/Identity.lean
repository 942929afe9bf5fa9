import ResourceOperator.Json.Record
import ResourceOperator.Text.Search

/-!
# Identities of remote objects

A remote object is named by its id, by its resource name (CRN) or by its URL (href). The three are
equivalent: `canonicalId` reduces each of them to the id, and `same` compares identities by it. An
identity with an empty canonical id names nothing.

Model of `Identity`, with `is_empty`, `with_value` and `canonical_id`; `canonicalId?` is the
`canonical_id` of an identity that may be unset, and `same` is `identities_equal`.
-/

namespace ResourceOperator

/-- The representation an identity is written in. -/
inductive Identity.Form where
  | id
  | crn
  | href
  deriving DecidableEq, Repr

/-- A name of a remote object in one of its equivalent representations. -/
structure Identity where
  form : Identity.Form
  value : String
  deriving DecidableEq, Repr

namespace Identity

/-- The member name of a representation. -/
def Form.name : Form → String
  | .id => "id"
  | .crn => "crn"
  | .href => "href"

/-- The representation with this member name. -/
def Form.named : String → Option Form
  | "id" => some .id
  | "crn" => some .crn
  | "href" => some .href
  | _ => none

@[simp] theorem Form.named_name (f : Form) : Form.named f.name = some f := by
  cases f <;> rfl

/-- The identity by id. -/
def byId (id : String) : Identity :=
  ⟨.id, id⟩

/-- An identity with an empty value identifies nothing. -/
def isEmpty (i : Identity) : Bool :=
  i.value.isEmpty

/-- The same representation with another value. -/
def withValue (i : Identity) (value : String) : Identity :=
  { i with value := value }

/-- The id of the object. A URL ends in `/id`, perhaps with further slashes; a resource name ends in
`:id`, and one that ends in a colon stands for itself. -/
def canonicalId (i : Identity) : String :=
  match i.form with
  | .id => i.value
  | .href => Text.lastSegment '/' (Text.dropTrailing '/' i.value)
  | .crn =>
    let last := Text.lastSegment ':' i.value
    if last.isEmpty then i.value else last

/-- The canonical id of an optional identity, an empty one counting as absent. -/
def canonicalId? (i : Option Identity) : Option String :=
  (i.map canonicalId).filter fun id => !id.isEmpty

/-- Both name the same object, or neither names one. -/
def same (a b : Option Identity) : Bool :=
  canonicalId? a == canonicalId? b

/-- Reads an object with one of the three members and no other. -/
def decode : Json → Option Identity
  | .object [(name, .string value)] => (Form.named name).map fun form => ⟨form, value⟩
  | _ => none

/-- Writes the one member. -/
def encode (i : Identity) : Json :=
  .object [(i.form.name, .string i.value)]

theorem decode_encode (i : Identity) : decode i.encode = some i := by
  simp [encode, decode]

end Identity

end ResourceOperator
