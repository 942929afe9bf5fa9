import ResourceOperator.Cloud.Call
import ResourceOperator.Resolve

/-!
# Operations on remote objects

What the reconciliation of a declared resource may do outside: resolve its references, observe its
remote object, create, update and delete it. Each operation is a dialogue with the cloud and with
the declared objects (`Outside`) and ends with an `Outcome`: a result, and the resource as the
operation left it, also when it failed.

`External` is the interface `ExternalClient`, whose operations come to a `ReferenceResolution`
(`Resolved`), an `ExternalObservation` (`Observed`) and an `ExternalCreation` (`Created`).
-/

namespace ResourceOperator

/-- Questions to the cloud and about declared objects. -/
inductive OutsideCall where
  | cloud (call : Cloud.Call)
  | lookup (kind : Kind) (call : LookupCall)

/-- What is outside of one declared resource: the cloud and the other declared resources. -/
def Outside : Interface where
  Question := OutsideCall
  Answer
    | .cloud c => Cloud.Service.Answer c
    | .lookup k c => (Lookup k).Answer c

/-- How an operation ended, and the resource as it left it. -/
structure Outcome (k : Kind) (α : Type) where
  result : Except EngineError α
  resource : Managed k

/-- What resolving the references of a resource came to. -/
structure Resolved where
  changed : Bool
  pending : List String
  deriving DecidableEq, Repr

/-- What was observed of a remote object. -/
structure Observed where
  present : Bool
  upToDate : Bool
  lateInitialized : Bool
  connectionDetails : Table String
  deriving DecidableEq, Repr

/-- What the creation of a remote object yielded. -/
structure Created where
  connectionDetails : Table String
  deriving DecidableEq, Repr

/-- The observation of an object that does not exist. -/
def Observed.absent : Observed :=
  ⟨false, false, false, []⟩

namespace Outside

variable {α : Type}

/-- Asks the cloud. -/
def cloud (call : Cloud.Call) : Dialogue Outside (Except Cloud.Failure call.Result) :=
  Dialogue.call (I := Outside) (.cloud call)

/-- A dialogue with the catalog as a dialogue with the outside. -/
def ofCatalog (d : Dialogue Cloud.Catalog α) : Dialogue Outside α :=
  d.forward fun q => Dialogue.call (I := Outside) (.cloud (.catalog q))

/-- A dialogue about declared objects as a dialogue with the outside. -/
def ofLookup {k : Kind} (d : Dialogue (Lookup k) α) : Dialogue Outside α :=
  d.forward fun q => Dialogue.call (I := Outside) (.lookup k q)

end Outside

namespace Outcome

variable {k : Kind} {α : Type}

/-- Success. -/
def ok (value : α) (resource : Managed k) : Outcome k α :=
  ⟨.ok value, resource⟩

/-- Failure. -/
def fail (error : EngineError) (resource : Managed k) : Outcome k α :=
  ⟨.error error, resource⟩

end Outcome

/-- The operations on the remote objects of a kind. `now` is the time to note in conditions. -/
structure External (k : Kind) where
  resolveReferences : Managed k → Dialogue Outside (Outcome k Resolved)
  observe : (now : String) → Managed k → Dialogue Outside (Outcome k Observed)
  create : (now : String) → Managed k → Dialogue Outside (Outcome k Created)
  update : Managed k → Dialogue Outside (Outcome k Unit)
  delete : (now : String) → Managed k → Dialogue Outside (Outcome k Unit)

/-- A resource without references has nothing to resolve. -/
def External.resolveNothing {k : Kind} (r : Managed k) : Dialogue Outside (Outcome k Resolved) :=
  pure (.ok ⟨false, []⟩ r)

end ResourceOperator
