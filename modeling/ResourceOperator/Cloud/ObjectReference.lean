import ResourceOperator.Identity

/-!
# Objects named inside remote objects

A remote object names another one by an `ObjectReference`, in which the cloud may leave any part
empty. A request names one by an `ObjectName`, one of the three representations of an identity.

The two are `ResourceReference` and `ResourceIdentity`; `ObjectReference.identity` is
`identity_from_reference`, and `ObjectName.ofIdentity` is `identity_to_request`.
-/

namespace ResourceOperator.Cloud

open Json.Reader

/-- Another object, as an answer names it; any part may be empty. -/
structure ObjectReference where
  id : String
  crn : String
  href : String
  name : String
  deriving DecidableEq, Repr

/-- Another object, as a request names it. -/
structure ObjectName where
  id : Option String
  crn : Option String
  href : Option String
  deriving DecidableEq, Repr

namespace ObjectReference

/-- A reference with every part empty. -/
def empty : ObjectReference :=
  ⟨"", "", "", ""⟩

/-- Reads a reference; missing parts are empty. -/
def decode {D : Type} [Json.Document D] : D → Option ObjectReference :=
  read do
    let id ← defaulted "id" "" Json.text
    let crn ← defaulted "crn" "" Json.text
    let href ← defaulted "href" "" Json.text
    let name ← defaulted "name" "" Json.text
    pure ⟨id, crn, href, name⟩

/-- Writes a reference. -/
def encode (r : ObjectReference) : Json :=
  .object [("crn", .string r.crn), ("href", .string r.href), ("id", .string r.id),
    ("name", .string r.name)]

/-- The part that holds the value of a representation. -/
def part (r : ObjectReference) : Identity.Form → String
  | .id => r.id
  | .crn => r.crn
  | .href => r.href

/-- The identity of the object named. -/
def identity (r : ObjectReference) : Identity :=
  .byId r.id

end ObjectReference

namespace ObjectName

/-- The name made of an identity. -/
def ofIdentity (i : Identity) : ObjectName :=
  match i.form with
  | .id => ⟨some i.value, none, none⟩
  | .crn => ⟨none, some i.value, none⟩
  | .href => ⟨none, none, some i.value⟩

/-- Reads a name. -/
def decode : Json → Option ObjectName :=
  read do
    let id ← optional "id" Json.text
    let crn ← optional "crn" Json.text
    let href ← optional "href" Json.text
    pure ⟨id, crn, href⟩

/-- Writes a name. -/
def encode (n : ObjectName) : Json :=
  .object (
    Json.member "crn" (n.crn.map .string) ++
    Json.member "href" (n.href.map .string) ++
    Json.member "id" (n.id.map .string))

end ObjectName

end ResourceOperator.Cloud
