import ResourceOperator.Kind
import ResourceOperator.ResourceInstance.Schema
import ResourceOperator.ResourceKey.Schema
import ResourceOperator.Subnet.Schema
import ResourceOperator.Topic.Schema
import ResourceOperator.Vpc.Schema

/-!
# Definitions of kinds

What the cluster is told about a kind: its names, the schema of its objects and the columns of a
listing.
-/

namespace ResourceOperator

/-- A column of a listing. -/
structure Column where
  name : String
  type : String
  path : String
  deriving DecidableEq, Repr

/-- Writes a column. -/
def Column.encode (c : Column) : Json :=
  .object [("jsonPath", .string c.path), ("name", .string c.name), ("type", .string c.type)]

namespace Kind

/-- What a kind has of its own in the schema of its objects. -/
def schemaParts : Kind → Schema.Parts
  | .vpc => Vpc.schemaParts
  | .subnet => Subnet.schemaParts
  | .resourceInstance => ResourceInstance.schemaParts
  | .resourceKey => ResourceKey.schemaParts
  | .topic => Topic.schemaParts

/-- The column that every kind has. -/
def readyColumn : Column :=
  ⟨"Ready", "string", ".status.conditions[?(@.type=='Ready')].status"⟩

/-- The columns that a kind has of its own. -/
def columns : Kind → List Column
  | .vpc =>
    [⟨"External-Name", "string", ".metadata.annotations.cloud\\.datum\\.net/external-name"⟩]
  | .subnet => [⟨"CIDR", "string", ".status.atProvider.ipv4CidrBlock"⟩]
  | .resourceInstance => [⟨"State", "string", ".status.atProvider.state"⟩]
  | .resourceKey => []
  | .topic => [⟨"Partitions", "integer", ".status.atProvider.partitions"⟩]

/-- The name of one object of a kind. -/
def singular : Kind → String
  | .vpc => "vpc"
  | .subnet => "subnet"
  | .resourceInstance => "resourceinstance"
  | .resourceKey => "resourcekey"
  | .topic => "topic"

/-- The schema of the objects of a kind. -/
def schema (k : Kind) : Schema :=
  .described ("Auto-generated derived type for " ++ k.name ++ "Spec via `CustomResource`")
    (.record
      [Schema.need "spec" k.schemaParts.specSchema, Schema.may "status" k.schemaParts.statusSchema])

/-- The definition of a kind. -/
def definition (k : Kind) : Json :=
  let names := Json.object
    [("categories", .array []), ("kind", .string k.name), ("plural", .string k.plural),
      ("shortNames", .array []), ("singular", .string k.singular)]
  let schema := Json.object (Table.insert "title" (.string k.name) k.schema.members)
  let versions := Json.object
    [("additionalPrinterColumns", .array ((readyColumn :: k.columns).map Column.encode)),
      ("name", .string version),
      ("schema", .object [("openAPIV3Schema", schema)]),
      ("served", .bool true), ("storage", .bool true),
      ("subresources", .object [("status", .object [])])]
  .object
    [("apiVersion", .string "apiextensions.k8s.io/v1"),
      ("kind", .string "CustomResourceDefinition"),
      ("metadata", .object [("name", .string (k.plural ++ "." ++ k.group))]),
      ("spec", .object
        [("group", .string k.group), ("names", names), ("scope", .string "Cluster"),
          ("versions", .array [versions])])]

end Kind

end ResourceOperator
