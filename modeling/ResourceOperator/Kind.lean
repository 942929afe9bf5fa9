/-!
# Kinds of declared resources

The five kinds that the operator manages, and where the cluster keeps their objects.

They are `VPC`, `Subnet`, `ResourceInstance`, `ResourceKey` and `Topic`.
-/

namespace ResourceOperator

/-- A kind of declared resource. -/
inductive Kind where
  | vpc
  | subnet
  | resourceInstance
  | resourceKey
  | topic
  deriving DecidableEq, Repr

namespace Kind

/-- Every kind. -/
def all : List Kind :=
  [.vpc, .subnet, .resourceInstance, .resourceKey, .topic]

/-- The name of a kind. -/
def name : Kind → String
  | .vpc => "VPC"
  | .subnet => "Subnet"
  | .resourceInstance => "ResourceInstance"
  | .resourceKey => "ResourceKey"
  | .topic => "Topic"

/-- The kind with this name. -/
def named (name : String) : Option Kind :=
  all.find? fun k => k.name == name

/-- The name that the collection of a kind has in a path. -/
def plural : Kind → String
  | .vpc => "vpcs"
  | .subnet => "subnets"
  | .resourceInstance => "resourceinstances"
  | .resourceKey => "resourcekeys"
  | .topic => "topics"

/-- The group that a kind belongs to. -/
def group : Kind → String
  | .vpc => "vpc.cloud.datum.net"
  | .subnet => "vpc.cloud.datum.net"
  | .resourceInstance => "resourcecontroller.cloud.datum.net"
  | .resourceKey => "resourcecontroller.cloud.datum.net"
  | .topic => "eventstreams.cloud.datum.net"

/-- The version of every kind within its group. -/
def version : String := "v1alpha1"

/-- Group and version, as objects carry them. -/
def apiVersion (k : Kind) : String :=
  k.group ++ "/" ++ version

end Kind

end ResourceOperator
