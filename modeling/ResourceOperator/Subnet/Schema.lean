import ResourceOperator.Schema.Shared

/-!
# The schema of subnets

The desired state has one of two forms, and both hold the same common members.

It describes `SubnetParameters` and `SubnetObservation`.
-/

namespace ResourceOperator.Subnet

open Schema

/-- The members that both forms of the desired state have. -/
def commonMembers : List (String × Presence × Schema) :=
  [may "name" (textFor "Unique user-defined name (generated by the cloud if unset)"),
    may "ipVersion" (textFor "IP version, \"ipv4\". Immutable after creation."),
    may "networkAcl" (identityOf "Network ACL attached to the subnet"),
    may "publicGateway" (identityOf "Public gateway attached to the subnet"),
    may "resourceGroup" (identityOf "Resource group owning the subnet. Immutable after creation."),
    may "routingTable" (identityOf "Routing table attached to the subnet"),
    may "vpc" (identityOf "VPC the subnet belongs to. Immutable after creation."),
    may "vpcRef"
      (described "Reference to a VPC resource whose external name fills `vpc`" reference),
    may "vpcSelector"
      (described "Selects a VPC resource whose external name fills `vpc`" selector)]

/-- The schema of the desired state. -/
def parametersSchema : Schema :=
  oneOf
    [("byTotalCount",
        described "Let the cloud pick a block of the requested size"
          (record
            (commonMembers ++
              [orElse "totalIpv4AddressCount" (.number (.int 0))
                  (described "Total number of IPv4 addresses, a power of two. Immutable." int64),
                orElse "zone" (.string "") (textFor "Zone name. Immutable.")]))),
      ("byCidr",
        described "Use an explicit IPv4 CIDR block"
          (record
            (commonMembers ++
              [need "ipv4CidrBlock" (textFor "IPv4 range in CIDR notation. Immutable."),
                may "zone"
                  (textFor "Zone name; derived from the address prefix when unset. Immutable.")])))]

/-- The schema of the observed state. -/
def observationSchema : Schema :=
  record
    [need "id" text, need "crn" text, need "href" text, need "status" text, may "createdAt" text,
      need "ipv4CidrBlock" text, need "availableIpv4AddressCount" int64,
      need "totalIpv4AddressCount" int64, need "zone" text, need "vpc" text]

/-- What subnets have of their own in the schema of their objects. -/
def schemaParts : Parts :=
  { spec := "Subnet - a range of addresses inside a VPC zone"
    parameters := described "Desired state of the subnet" parametersSchema
    secret := secretReference
    extra := []
    status := "Status of a subnet"
    observation := described "Observed state of a subnet" observationSchema }

end ResourceOperator.Subnet
