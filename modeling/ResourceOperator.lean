import ResourceOperator.Cloud.Authorization
import ResourceOperator.Cloud.Call
import ResourceOperator.Cloud.Catalog
import ResourceOperator.Cloud.Client
import ResourceOperator.Cloud.NetworkState
import ResourceOperator.Cloud.ObjectReference
import ResourceOperator.Cloud.Wire
import ResourceOperator.Cluster.Call
import ResourceOperator.Cluster.Secret
import ResourceOperator.Cluster.Server
import ResourceOperator.Cluster.Store
import ResourceOperator.Condition
import ResourceOperator.ConnectionDetails
import ResourceOperator.Dialogue
import ResourceOperator.External.Basic
import ResourceOperator.External.ResourceInstance
import ResourceOperator.External.ResourceKey
import ResourceOperator.External.Subnet
import ResourceOperator.External.Topic
import ResourceOperator.External.Vpc
import ResourceOperator.Failure
import ResourceOperator.Fill
import ResourceOperator.Identity
import ResourceOperator.Json.Basic
import ResourceOperator.Json.Flatten
import ResourceOperator.Json.Merge
import ResourceOperator.Json.Numeral
import ResourceOperator.Json.Parser
import ResourceOperator.Json.Printer
import ResourceOperator.Json.Record
import ResourceOperator.Kind
import ResourceOperator.Main
import ResourceOperator.Managed
import ResourceOperator.Metadata
import ResourceOperator.Metrics
import ResourceOperator.Net.Address
import ResourceOperator.Net.Block
import ResourceOperator.Net.Exchange
import ResourceOperator.Net.Percent
import ResourceOperator.Net.Url
import ResourceOperator.Number.Binary64
import ResourceOperator.Number.Extended
import ResourceOperator.Proofs.Cloud.Absence
import ResourceOperator.Proofs.Cloud.Addressing
import ResourceOperator.Proofs.Cloud.Bodies
import ResourceOperator.Proofs.Cloud.Plans
import ResourceOperator.Proofs.Cloud.ReadBack
import ResourceOperator.Proofs.Cloud.Received
import ResourceOperator.Proofs.Cloud.Session
import ResourceOperator.Proofs.Cloud.Tokens
import ResourceOperator.Proofs.Cluster.Contention
import ResourceOperator.Proofs.Cluster.Stored
import ResourceOperator.Proofs.Condition
import ResourceOperator.Proofs.Condition.History
import ResourceOperator.Proofs.Desired
import ResourceOperator.Proofs.Dialogue
import ResourceOperator.Proofs.Differing
import ResourceOperator.Proofs.Emptied
import ResourceOperator.Proofs.External.Reading
import ResourceOperator.Proofs.External.Settling
import ResourceOperator.Proofs.External.Sighting
import ResourceOperator.Proofs.External.Tracking
import ResourceOperator.Proofs.Filling
import ResourceOperator.Proofs.Identity
import ResourceOperator.Proofs.Identity.Representations
import ResourceOperator.Proofs.Json.Codec
import ResourceOperator.Proofs.Json.Draft
import ResourceOperator.Proofs.Json.Flatten
import ResourceOperator.Proofs.Json.Merge
import ResourceOperator.Proofs.Json.ReadBack
import ResourceOperator.Proofs.Json.Record
import ResourceOperator.Proofs.Json.Text
import ResourceOperator.Proofs.Json.Update
import ResourceOperator.Proofs.Lockstep
import ResourceOperator.Proofs.Managed
import ResourceOperator.Proofs.Net.Percent
import ResourceOperator.Proofs.Net.Url
import ResourceOperator.Proofs.ReadBack
import ResourceOperator.Proofs.Reconcile.Creation
import ResourceOperator.Proofs.Reconcile.Deletion
import ResourceOperator.Proofs.Reconcile.Disclosure
import ResourceOperator.Proofs.Reconcile.Discretion
import ResourceOperator.Proofs.Reconcile.Finalizer
import ResourceOperator.Proofs.Reconcile.Gate
import ResourceOperator.Proofs.Reconcile.Invariant
import ResourceOperator.Proofs.Reconcile.Outcome
import ResourceOperator.Proofs.Reconcile.Persistence
import ResourceOperator.Proofs.Reconcile.Publication
import ResourceOperator.Proofs.Reconcile.Quiet
import ResourceOperator.Proofs.Reconcile.Report
import ResourceOperator.Proofs.Reconcile.Retention
import ResourceOperator.Proofs.Reconcile.Task
import ResourceOperator.Proofs.Reconcile.Trace
import ResourceOperator.Proofs.Reconcile.Writing
import ResourceOperator.Proofs.Reconstruction
import ResourceOperator.Proofs.Reference
import ResourceOperator.Proofs.Resolution
import ResourceOperator.Proofs.Resolution.Repeated
import ResourceOperator.Proofs.Resolution.Specification
import ResourceOperator.Proofs.Resolution.Waiting
import ResourceOperator.Proofs.ResourceInstance.Agreement
import ResourceOperator.Proofs.ResourceInstance.Convergence
import ResourceOperator.Proofs.ResourceInstance.Due
import ResourceOperator.Proofs.ResourceInstance.Lookups
import ResourceOperator.Proofs.ResourceInstance.Tags
import ResourceOperator.Proofs.ResourceKey.Credentials
import ResourceOperator.Proofs.ResourceKey.Templates
import ResourceOperator.Proofs.Subnet.Absence
import ResourceOperator.Proofs.Subnet.Attachment
import ResourceOperator.Proofs.Subnet.Convergence
import ResourceOperator.Proofs.Subnet.Isolation
import ResourceOperator.Proofs.Subnet.Request
import ResourceOperator.Proofs.Table
import ResourceOperator.Proofs.Topic.Agreement
import ResourceOperator.Proofs.Topic.Convergence
import ResourceOperator.Proofs.Unset
import ResourceOperator.Proofs.Updating
import ResourceOperator.Reconcile.Basic
import ResourceOperator.Reconcile.Lifecycle
import ResourceOperator.Reconcile.World
import ResourceOperator.Reference
import ResourceOperator.Resolve
import ResourceOperator.ResourceInstance.Desired
import ResourceOperator.ResourceInstance.Mapping
import ResourceOperator.ResourceInstance.Remote
import ResourceOperator.ResourceInstance.Schema
import ResourceOperator.ResourceKey.Desired
import ResourceOperator.ResourceKey.Mapping
import ResourceOperator.ResourceKey.Remote
import ResourceOperator.ResourceKey.Schema
import ResourceOperator.Schema
import ResourceOperator.Schema.Definition
import ResourceOperator.Schema.Shared
import ResourceOperator.Settings
import ResourceOperator.Settings.Reading
import ResourceOperator.Subnet.Desired
import ResourceOperator.Subnet.Mapping
import ResourceOperator.Subnet.Remote
import ResourceOperator.Subnet.Schema
import ResourceOperator.Table
import ResourceOperator.Template.Arguments
import ResourceOperator.Template.Evaluation
import ResourceOperator.Template.Failure
import ResourceOperator.Template.Filter
import ResourceOperator.Template.Grammar
import ResourceOperator.Template.Grammar.Expression
import ResourceOperator.Template.Reading
import ResourceOperator.Template.Scope
import ResourceOperator.Template.Test
import ResourceOperator.Template.Token
import ResourceOperator.Template.Tree
import ResourceOperator.Template.Value
import ResourceOperator.Template.Value.Operation
import ResourceOperator.Template.Value.Order
import ResourceOperator.Template.Value.Text
import ResourceOperator.Text.Base64
import ResourceOperator.Text.Case
import ResourceOperator.Text.Case.Table
import ResourceOperator.Text.Quoted
import ResourceOperator.Text.Search
import ResourceOperator.Text.Utf8
import ResourceOperator.TextSet
import ResourceOperator.Time.Instant
import ResourceOperator.Topic.Configs
import ResourceOperator.Topic.Desired
import ResourceOperator.Topic.Mapping
import ResourceOperator.Topic.Remote
import ResourceOperator.Topic.Schema
import ResourceOperator.Vpc.Desired
import ResourceOperator.Vpc.Mapping
import ResourceOperator.Vpc.Remote
import ResourceOperator.Vpc.Schema
