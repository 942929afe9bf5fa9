import ResourceOperator.Condition

/-!
# States of network objects

The lifecycle of a network or a subnet as the cloud reports it, and the readiness that follows.

`VpcState` and `SubnetState` have the same states and are one type here; `readiness` is the
`condition` of both.
-/

namespace ResourceOperator.Cloud

/-- The lifecycle state of a network object. -/
inductive NetworkState where
  | available
  | deleting
  | failed
  | pending
  | unknown
  deriving DecidableEq, Repr

namespace NetworkState

/-- The name of a state. -/
def name : NetworkState → String
  | .available => "available"
  | .deleting => "deleting"
  | .failed => "failed"
  | .pending => "pending"
  | .unknown => "unknown"

/-- The state with this name; a name that is not known is the unknown state. -/
def named : String → NetworkState
  | "available" => .available
  | "deleting" => .deleting
  | "failed" => .failed
  | "pending" => .pending
  | _ => .unknown

@[simp] theorem named_name (s : NetworkState) : named s.name = s := by
  cases s <;> rfl

/-- Reads a state. -/
def decode {D : Type} [Json.Document D] : D → Option NetworkState :=
  Json.choice fun s => some (named s)

/-- Writes a state. -/
def encode (s : NetworkState) : Json :=
  .string s.name

/-- The readiness that follows from a state. -/
def readiness (s : NetworkState) (now : String) : Condition :=
  match s with
  | .available => .available now
  | .pending => .creating now
  | .deleting => .deleting now
  | .failed => .unavailable now
  | .unknown => .unavailable now

end NetworkState

end ResourceOperator.Cloud
