import ResourceOperator.Reconcile.Lifecycle

/-!
# Reconciliation

One reconciliation brings a declared resource and its remote object closer. It resolves
references, observes the remote object, creates it when it is absent, stores desired state that
was filled in, publishes connection details, and updates the object when it has drifted. A deleted
resource keeps its finalizer until the remote object is gone.

* `sync`: a resource that is wanted.
* `finalize`: a resource that is being deleted.
* `reconcile`: either of them, with the finalizer before and the status after.
* `run`: the same, with its outcome recorded.

Here `reconcile_managed` is called `reconcile`, and `reconcile` is called `run`. The other functions
are `error_policy` (`onError`), `publish_connection_details` (`publishDetails`), `publish_status`,
`has_finalizer` and `is_deleting`.
-/

namespace ResourceOperator

/-- When to reconcile again: after a number of seconds, or when the resource changes. -/
inductive Action where
  | requeue (seconds : Nat)
  | awaitChange
  deriving DecidableEq, Repr

namespace Reconcile

/-- How long to wait, and the time to note in conditions. -/
structure Context where
  requeue : Nat
  errorRequeue : Nat
  now : String

variable {k : Kind}

/-- The object carries the finalizer. -/
def hasFinalizer (r : Managed k) : Bool :=
  r.metadata.finalizerList.contains Cluster.finalizer

/-- The remote object is already being torn down. -/
def isDeleting (r : Managed k) : Bool :=
  r.conditions.any fun c => c.aspect == .ready && c.reason == .deleting

/-- Stores annotations and spec. -/
def storeDesired (name : String) : Task k Unit :=
  .write fun r => some (.patch name r.desiredStatePatch)

/-- Publishes connection details, if there are any and a secret is named. -/
def publishDetails (details : Table String) : Task k Unit :=
  .write fun r =>
    if details.isEmpty then none
    else r.connectionSecret.map fun secret => .applySecret secret details

/-- Publishes the status, if there is one. -/
def publishStatus (name : String) : Task k Unit :=
  .write fun r => r.status.map fun s => .patchStatus name s.encode

/-- The message of a resource that waits for references. -/
def pendingMessage (fields : List String) : String :=
  "waiting for " ++ ", ".intercalate fields ++ " to be resolved"

/-- Creates the remote object, and looks again soon. -/
def syncAbsent (context : Context) (name : String) : Task k Action := do
  let created ← Task.create
  storeDesired name
  publishDetails created.connectionDetails
  Task.modify (Managed.setCondition (.reconcileSuccess context.now))
  pure (.requeue context.errorRequeue)

/-- Brings an existing remote object and the resource together. -/
def syncPresent (context : Context) (name : String) (observed : Observed) : Task k Action := do
  if observed.lateInitialized then storeDesired name
  publishDetails observed.connectionDetails
  if !observed.upToDate then Task.update
  Task.modify (Managed.setCondition (.reconcileSuccess context.now))
  pure (.requeue context.requeue)

/-- Brings a wanted resource and its remote object together. -/
def sync (context : Context) (name : String) : Task k Action := do
  let resolved ← Task.resolveReferences
  if resolved.changed then storeDesired name
  if !resolved.pending.isEmpty then do
    Task.modify (Managed.setCondition
      (.reconcileError (pendingMessage resolved.pending) context.now))
    pure (.requeue context.errorRequeue)
  else do
    let observed ← Task.observe
    if observed.present then syncPresent context name observed else syncAbsent context name

/-- Lets go of a resource whose remote object is gone, or is to be left alone. -/
def release (name : String) : Task k Action := do
  Task.write fun r => r.connectionSecret.map .deleteSecret
  Task.write fun _ => some (.removeFinalizer name)
  pure .awaitChange

/-- Deletes an existing remote object, unless that is under way, and looks again soon. -/
def tearDown (context : Context) (name : String) : Task k Action := do
  let deleting ← Task.read isDeleting
  if !deleting then Task.delete
  Task.modify (Managed.setCondition (.reconcileSuccess context.now))
  publishStatus name
  pure (.requeue context.errorRequeue)

/-- Takes a deleted resource to its end. -/
def finalize (context : Context) (name : String) : Task k Action := do
  let policy ← Task.read fun r => r.spec.deletionPolicy
  match policy with
  | .orphan => release name
  | .delete => do
    let observed ← Task.observe
    if observed.present then tearDown context name else release name

/-- Notes a failure in the conditions. -/
def noteFailure (context : Context) (result : Except ReconcileError Action) : Task k Unit :=
  match result with
  | .ok _ => pure ()
  | .error e => Task.modify (Managed.setCondition (.reconcileError e.message context.now))

/-- Reconciles a resource that is being deleted. A failure is noted in its status, whatever becomes
of that write. -/
def reconcileDeleted (context : Context) (name : String) : Task k Action := do
  let kept ← Task.read hasFinalizer
  if !kept then pure .awaitChange
  else do
    let result ← (finalize context name).attempt
    match result with
    | .ok action => pure action
    | .error e => do
      noteFailure context (.error e)
      let _ ← (publishStatus name).attempt
      Task.ofResult (.error e)

/-- Reconciles a resource that is wanted. The status is published in every case; a failure before
that goes before a failure of the write. -/
def reconcileWanted (context : Context) (name : String) : Task k Action := do
  let kept ← Task.read hasFinalizer
  if !kept then Task.write fun _ => some (.addFinalizer name)
  let result ← (sync context name).attempt
  noteFailure context result
  let status ← (publishStatus name).attempt
  let action ← Task.ofResult result
  Task.ofResult status
  pure action

/-- Reconciles a resource. -/
def reconcile (context : Context) : Task k Action := do
  let name ← Task.read Managed.displayName
  let deleted ← Task.read fun r => r.metadata.isDeleted
  if deleted then reconcileDeleted context name else reconcileWanted context name

/-- Reconciles a resource and records whether that succeeded. -/
def run (context : Context) (r : Managed k) :
    Dialogue (Lifecycle k) (Except ReconcileError Action) :=
  (reconcile context r).bind fun (result, _) =>
    .ask (.record result.isOk) fun () => .done result

/-- What to do after a failure. -/
def onError (context : Context) (_ : ReconcileError) : Action :=
  .requeue context.errorRequeue

end Reconcile

end ResourceOperator
