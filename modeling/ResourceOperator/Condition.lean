import ResourceOperator.Json.Record

/-!
# Status conditions

A condition states one aspect of an object: whether it is ready for use, and whether the last
reconciliation succeeded. `set` replaces the condition of the same aspect, and keeps the old one,
its time included, when nothing but the time would change.

`set` is `set_condition`, and `equivalent` and the conditions from `available` to `reconcileError`
are those of `Condition`.
-/

namespace ResourceOperator

open Json.Reader

namespace Condition

/-- The aspect that a condition is about. -/
inductive Aspect where
  | ready
  | synced
  deriving DecidableEq, Repr

/-- Whether the aspect holds. -/
inductive Verdict where
  | holds
  | fails
  | unknown
  deriving DecidableEq, Repr

/-- Why the aspect holds or not. -/
inductive Reason where
  | available
  | creating
  | deleting
  | unavailable
  | reconcileSuccess
  | reconcileError
  deriving DecidableEq, Repr

end Condition

/-- A status condition. -/
structure Condition where
  aspect : Condition.Aspect
  verdict : Condition.Verdict
  reason : Condition.Reason
  message : Option String
  lastTransitionTime : Option String
  deriving DecidableEq, Repr

namespace Condition

/-- The name of an aspect. -/
def Aspect.name : Aspect → String
  | .ready => "Ready"
  | .synced => "Synced"

/-- The aspect with this name. -/
def Aspect.named : String → Option Aspect
  | "Ready" => some .ready
  | "Synced" => some .synced
  | _ => none

/-- The name of a verdict. -/
def Verdict.name : Verdict → String
  | .holds => "True"
  | .fails => "False"
  | .unknown => "Unknown"

/-- The verdict with this name. -/
def Verdict.named : String → Option Verdict
  | "True" => some .holds
  | "False" => some .fails
  | "Unknown" => some .unknown
  | _ => none

/-- The name of a reason. -/
def Reason.name : Reason → String
  | .available => "Available"
  | .creating => "Creating"
  | .deleting => "Deleting"
  | .unavailable => "Unavailable"
  | .reconcileSuccess => "ReconcileSuccess"
  | .reconcileError => "ReconcileError"

/-- The reason with this name. -/
def Reason.named : String → Option Reason
  | "Available" => some .available
  | "Creating" => some .creating
  | "Deleting" => some .deleting
  | "Unavailable" => some .unavailable
  | "ReconcileSuccess" => some .reconcileSuccess
  | "ReconcileError" => some .reconcileError
  | _ => none

@[simp] theorem Aspect.named_name (a : Aspect) : Aspect.named a.name = some a := by
  cases a <;> rfl

@[simp] theorem Verdict.named_name (v : Verdict) : Verdict.named v.name = some v := by
  cases v <;> rfl

@[simp] theorem Reason.named_name (r : Reason) : Reason.named r.name = some r := by
  cases r <;> rfl

/-- The remote object exists and can be used. -/
def available (now : String) : Condition :=
  ⟨.ready, .holds, .available, none, some now⟩

/-- The remote object is being created. -/
def creating (now : String) : Condition :=
  ⟨.ready, .fails, .creating, none, some now⟩

/-- The remote object is being deleted. -/
def deleting (now : String) : Condition :=
  ⟨.ready, .fails, .deleting, none, some now⟩

/-- The remote object exists and cannot be used. -/
def unavailable (now : String) : Condition :=
  ⟨.ready, .fails, .unavailable, none, some now⟩

/-- The last reconciliation succeeded. -/
def reconcileSuccess (now : String) : Condition :=
  ⟨.synced, .holds, .reconcileSuccess, none, some now⟩

/-- The last reconciliation failed, or waits for something. -/
def reconcileError (message now : String) : Condition :=
  ⟨.synced, .fails, .reconcileError, some message, some now⟩

/-- Equal apart from the time. -/
def equivalent (a b : Condition) : Bool :=
  a.aspect == b.aspect && a.verdict == b.verdict && a.reason == b.reason && a.message == b.message

/-- Replaces the first condition of the same aspect, unless it is equivalent, and appends the
condition when there is none. -/
def set (condition : Condition) : List Condition → List Condition
  | [] => [condition]
  | c :: rest =>
    if c.aspect = condition.aspect then
      if c.equivalent condition then c :: rest else condition :: rest
    else c :: set condition rest

/-- Reads a condition. -/
def decode : Json → Option Condition :=
  read do
    let aspect ← required "type" (Json.choice Aspect.named)
    let verdict ← required "status" (Json.choice Verdict.named)
    let reason ← required "reason" (Json.choice Reason.named)
    let message ← optional "message" Json.text
    let time ← optional "lastTransitionTime" Json.text
    pure ⟨aspect, verdict, reason, message, time⟩

/-- Writes a condition. -/
def encode (c : Condition) : Json :=
  .object (
    Json.member "lastTransitionTime" (c.lastTransitionTime.map .string) ++
    Json.member "message" (c.message.map .string) ++
    [("reason", .string c.reason.name), ("status", .string c.verdict.name),
      ("type", .string c.aspect.name)])

end Condition

end ResourceOperator
