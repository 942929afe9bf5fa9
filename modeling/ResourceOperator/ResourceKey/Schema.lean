import ResourceOperator.Schema.Shared

/-!
# The schema of keys

It describes `ResourceKeyParameters` and `ResourceKeyObservation`.
-/

namespace ResourceOperator.ResourceKey

open Schema

/-- The schema of the desired state. -/
def parametersSchema : Schema :=
  record
    [need "name" (textFor "Name of the key"),
      may "source" (textFor "CRN or id of the instance the key is issued for. Immutable."),
      may "sourceRef"
        (described "Reference to a ResourceInstance whose external name fills `source`" reference),
      may "sourceSelector"
        (described "Selects a ResourceInstance whose external name fills `source`" selector),
      may "role" (textFor "Role name or CRN granted to the credentials. Immutable."),
      may "parameters"
        (described "Extra creation parameters. Immutable."
          (record
            [may "serviceIdCrn"
              (textFor "Service id to bind the credentials to instead of creating one")]))]

/-- The schema of the observed state. -/
def observationSchema : Schema :=
  record
    [need "id" text, need "guid" text, need "crn" text, need "url" text, need "accountId" text,
      need "resourceGroupId" text, need "sourceCrn" text, need "state" text,
      need "iamCompatible" flag, may "createdAt" text,
      may "kafkaAdminUrl" (textFor "Kafka admin endpoint carried by Event Streams credentials")]

/-- Templates for the entries of the secret. -/
def templatesSchema : Schema :=
  described
    ("Templates rendered against the credentials, one per secret key. " ++
      "When unset the credentials are flattened into dotted keys.")
    (table text)

/-- What keys have of their own in the schema of their objects. -/
def schemaParts : Parts :=
  { spec := "ResourceKey - credentials issued for a resource instance"
    parameters := described "Desired state of the key" parametersSchema
    secret := described "Secret receiving the issued credentials" secretReference
    extra := [may "connectionTemplates" templatesSchema]
    status := "Status of a resource key"
    observation := described "Observed state of a resource key" observationSchema }

end ResourceOperator.ResourceKey
