import ResourceOperator.Schema.Shared

/-!
# The schema of topics

It describes `TopicParameters` and `TopicObservation`.
-/

namespace ResourceOperator.Topic

open Schema

/-- The schema of the settings of a topic. -/
def configsSchema : Schema :=
  record
    [may "cleanupPolicy" (textFor "\"delete\", \"compact\" or \"compact,delete\""),
      may "minInsyncReplicas" text, may "retentionBytes" text, may "retentionMs" text,
      may "segmentBytes" text, may "segmentIndexBytes" text, may "segmentMs" text]

/-- The schema of the desired state. -/
def parametersSchema : Schema :=
  record
    [may "kafkaAdminUrl" (textFor "Admin REST endpoint of the Event Streams instance"),
      may "kafkaAdminUrlRef"
        (described "Reference to a ResourceKey whose credentials carry the admin endpoint"
          reference),
      may "kafkaAdminUrlSelector"
        (described "Selects a ResourceKey whose credentials carry the admin endpoint"
          selector),
      may "partitions" (described "Number of partitions. Can only grow." int64),
      may "configs" (described "Topic configuration" configsSchema)]

/-- The schema of the observed state. -/
def observationSchema : Schema :=
  record
    [need "name" text, need "partitions" int64, need "replicationFactor" int64,
      need "retentionMs" int64, need "cleanupPolicy" text]

/-- What topics have of their own in the schema of their objects. -/
def schemaParts : Parts :=
  { spec := "Topic - a Kafka topic in an Event Streams instance.\n\n" ++
      "The topic name is the external name of the resource and defaults to the object name."
    parameters := described "Desired state of the topic" parametersSchema
    secret := secretReference
    extra := []
    status := "Status of a topic"
    observation := described "Observed state of a topic" observationSchema }

end ResourceOperator.Topic
