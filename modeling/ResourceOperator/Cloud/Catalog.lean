import ResourceOperator.Json.Record

/-!
# Catalog entries and resource groups

What the catalog and the resource manager list: services, plans and groups, each with an id and a
name. A page holds its entries under `resources`, which may be missing.

The records are `CatalogEntry` and `ResourceGroup`, the pages `CatalogPage` and `ResourceGroupPage`.
-/

namespace ResourceOperator.Cloud

open Json.Reader

variable {D : Type} [Json.Document D]

/-- A service or a plan of the catalog. -/
structure CatalogEntry where
  id : String
  name : String
  kind : String
  deriving DecidableEq, Repr

/-- A resource group. -/
structure ResourceGroup where
  id : String
  name : String
  deriving DecidableEq, Repr

namespace CatalogEntry

/-- Reads an entry. -/
def decode : D → Option CatalogEntry :=
  read do
    let id ← required "id" Json.text
    let name ← defaulted "name" "" Json.text
    let kind ← defaulted "kind" "" Json.text
    pure ⟨id, name, kind⟩

/-- Writes an entry. -/
def encode (e : CatalogEntry) : Json :=
  .object [("id", .string e.id), ("kind", .string e.kind), ("name", .string e.name)]

/-- Reads the entries of a page. -/
def decodePage : D → Option (List CatalogEntry) :=
  read (defaulted "resources" [] (Json.list decode))

end CatalogEntry

namespace ResourceGroup

/-- Reads a group. -/
def decode : D → Option ResourceGroup :=
  read do
    let id ← required "id" Json.text
    let name ← defaulted "name" "" Json.text
    pure ⟨id, name⟩

/-- Writes a group. -/
def encode (g : ResourceGroup) : Json :=
  .object [("id", .string g.id), ("name", .string g.name)]

/-- Reads the groups of a page. -/
def decodePage : D → Option (List ResourceGroup) :=
  read (defaulted "resources" [] (Json.list decode))

end ResourceGroup

end ResourceOperator.Cloud
