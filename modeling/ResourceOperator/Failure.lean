import ResourceOperator.Template.Failure
import ResourceOperator.Text.Quoted

/-!
# Failures

A request to the cluster's API server fails with the report that the server answered, or without
one: the request could not be made, or its answer could not be read. `Cloud.Failure` is why a call
to the cloud failed; its `isNotFound` singles out the one failure that says something about the
object: it does not exist. `EngineError` is why an operation on a declared resource failed: a
reference that leads nowhere, a call to the cloud, a configuration that makes no sense.
`ReconcileError` adds the failures of the writes to the cluster.

`Cloud.Failure` is `CloudError` and `EngineError` is `CoreError`, each with its `is_not_found`.
-/

namespace ResourceOperator

namespace Cluster

/-- What the API server says about a failed request. -/
structure Report where
  status : String
  message : String
  reason : String
  code : Nat
  deriving DecidableEq, Repr

/-- Why a request to the cluster failed. -/
inductive Failure where
  | answered (report : Report)
  | unanswered
  deriving DecidableEq, Repr

namespace Failure

/-- The code that the server answered. -/
def code? : Failure → Option Nat
  | .answered report => some report.code
  | .unanswered => none

/-- The text of a failure: message and reason, and then the whole report. -/
def message : Failure → String
  | .answered r =>
    "ApiError: " ++ r.message ++ ": " ++ r.reason ++ " (ErrorResponse \x7b status: " ++
      Text.Quoted.quote r.status ++ ", message: " ++ Text.Quoted.quote r.message ++ ", reason: " ++
      Text.Quoted.quote r.reason ++ ", code: " ++ toString r.code ++ " \x7d)"
  | .unanswered => "the API server gave no usable answer"

end Failure

end Cluster

namespace Cloud

/-- Why a call to the cloud failed. -/
inductive Failure where
  | notFound (what : String)
  | api (status : Nat) (message : String)
  | http
  | auth (message : String)
  | cluster (failure : Cluster.Failure)
  | serialization
  deriving DecidableEq, Repr

namespace Failure

/-- The cloud reported the object as absent. -/
def isNotFound : Failure → Bool
  | .notFound _ => true
  | _ => false

/-- The text of a failure. -/
def message : Failure → String
  | .notFound what => "Resource not found: " ++ what
  | .api status message => "Cloud API error (" ++ toString status ++ "): " ++ message
  | .http => "HTTP error: the exchange failed"
  | .auth message => "Authentication error: " ++ message
  | .cluster failure => "Kubernetes error: " ++ failure.message
  | .serialization => "Serialization error: the answer has another form"

end Failure

end Cloud

/-- Why an operation on a declared resource failed. -/
inductive EngineError where
  | notFound (what : String)
  | ambiguousReference (field : String) (count : Nat)
  | resolutionFailed (field : String) (source : EngineError)
  | lookup (context : String) (source : Cloud.Failure)
  | cloud (context : String) (source : Cloud.Failure)
  | template (key : String) (source : Template.Failure)
  | invalidConfiguration (message : String)
  | cluster (source : Cluster.Failure)
  | serialization
  deriving DecidableEq, Repr

/-- Why a reconciliation failed. -/
inductive ReconcileError where
  | engine (source : EngineError)
  | cluster (source : Cluster.Failure)
  | serialization
  deriving DecidableEq, Repr

namespace EngineError

/-- The failure means that the object itself does not exist. -/
def isNotFound : EngineError → Bool
  | .notFound _ => true
  | .cloud _ source => source.isNotFound
  | _ => false

/-- The text of a failure. -/
def message : EngineError → String
  | .notFound what => "Not found: " ++ what
  | .ambiguousReference field count =>
    "Ambiguous reference: selector for " ++ field ++ " matched " ++ toString count ++ " resources"
  | .resolutionFailed field source => "Cannot resolve " ++ field ++ ": " ++ source.message
  | .lookup context source => context ++ ": " ++ source.message
  | .cloud context source => context ++ ": " ++ source.message
  | .template key source => "Cannot render connection detail " ++ key ++ ": " ++ source.message
  | .invalidConfiguration message => "Invalid configuration: " ++ message
  | .cluster source => "Kubernetes error: " ++ source.message
  | .serialization => "Serialization error: the value has another form"

end EngineError

/-- The text of a failure. -/
def ReconcileError.message : ReconcileError → String
  | .engine source => source.message
  | .cluster source => "Kubernetes error: " ++ source.message
  | .serialization => "Serialization error: the value has another form"

end ResourceOperator
