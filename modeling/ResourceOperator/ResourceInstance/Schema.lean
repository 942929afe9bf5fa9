import ResourceOperator.Schema.Shared

/-!
# The schema of service instances

It describes `ResourceInstanceParameters` and `ResourceInstanceObservation`.
-/

namespace ResourceOperator.ResourceInstance

open Schema

/-- The schema of the desired state. -/
def parametersSchema : Schema :=
  record
    [need "name" (textFor "Name of the instance"),
      need "target"
        (textFor "Deployment location, e.g. \"us-south\" or \"global\". Immutable."),
      orElse "resourceGroupName" (.string "")
        (textFor "Resource group the instance is created in. Immutable."),
      need "serviceName" (textFor "Catalog service name, e.g. \"messagehub\". Immutable."),
      orElse "resourcePlanName" (.string "") (textFor "Catalog plan name, e.g. \"standard\""),
      may "tags" (described "Tags attached to the instance" (list text)),
      may "allowCleanup"
        (described "Whether the instance may be deleted while it still has keys" flag),
      ("parameters", .optional, described "Service-specific configuration" anyObject),
      may "entityLock"
        (described "Lock the instance against changes. Only applied at creation." flag)]

/-- The schema of the observed state. -/
def observationSchema : Schema :=
  record
    [need "id" text, need "guid" text, need "crn" text, need "url" text, need "accountId" text,
      need "resourceGroupId" text, need "resourcePlanId" text, need "targetCrn" text,
      need "state" (textFor "Lifecycle state reported by the cloud"), need "locked" flag,
      may "dashboardUrl" text, may "createdAt" text, may "lastOperation" text]

/-- What service instances have of their own in the schema of their objects. -/
def schemaParts : Parts :=
  { spec := "ResourceInstance - a provisioned instance of a catalog service"
    parameters := described "Desired state of the instance" parametersSchema
    secret := secretReference
    extra := []
    status := "Status of a resource instance"
    observation := described "Observed state of a resource instance" observationSchema }

end ResourceOperator.ResourceInstance
