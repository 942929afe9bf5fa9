import ResourceOperator.Schema.Shared

/-!
# The schema of networks

It describes `VPCParameters` and `VPCObservation`.
-/

namespace ResourceOperator.Vpc

open Schema

/-- The schema of the desired state. -/
def parametersSchema : Schema :=
  record
    [may "name" (textFor "Unique user-defined name (generated by the cloud if unset)"),
      may "addressPrefixManagement"
        (described
          "Whether a default address prefix is created per zone. Immutable after creation."
          (choice ["auto", "manual"])),
      may "classicAccess"
        (described
          "Whether the VPC is connected to classic infrastructure. Immutable after creation." flag),
      may "resourceGroup"
        (identityOf "Resource group owning the VPC. Immutable after creation.")]

/-- The schema of the observed state. -/
def observationSchema : Schema :=
  record
    [need "id" text, need "crn" text, need "href" text,
      need "status" (textFor "Lifecycle status reported by the cloud"), may "createdAt" text,
      need "classicAccess" flag, may "defaultNetworkAcl" text, may "defaultRoutingTable" text,
      may "defaultSecurityGroup" text, may "resourceGroup" text]

/-- What networks have of their own in the schema of their objects. -/
def schemaParts : Parts :=
  { spec := "VPC - a virtual private cloud network in one region"
    parameters := described "Desired state of the VPC" parametersSchema
    secret := secretReference
    extra := []
    status := "Status of a VPC"
    observation := described "Observed state of a VPC" observationSchema }

end ResourceOperator.Vpc
