import ResourceOperator.Json.Record

/-!
# References between declared objects

A field of a declared object may be taken from another object, designated by its name
(`Reference`) or by its labels (`Selector`). A `SecretReference` names the secret that receives
connection details.

`selects` is the `matches` of a `Selector`.
-/

namespace ResourceOperator

open Json.Reader

/-- Designates another declared object by its name. -/
structure Reference where
  name : String
  deriving DecidableEq, Repr

/-- Designates declared objects by labels that they carry. -/
structure Selector where
  matchLabels : Table String
  deriving DecidableEq, Repr

/-- A secret, by name and namespace. -/
structure SecretReference where
  name : String
  ns : String
  deriving DecidableEq, Repr

/-- What happens to the remote object when its declaration is deleted. -/
inductive DeletionPolicy where
  | delete
  | orphan
  deriving DecidableEq, Repr

namespace Reference

/-- Reads a reference. -/
def decode : Json → Option Reference :=
  read do
    let name ← required "name" Json.text
    pure ⟨name⟩

/-- Writes a reference. -/
def encode (r : Reference) : Json :=
  .object [("name", .string r.name)]

end Reference

namespace Selector

/-- Every label of the selector is among the labels, with the same value. -/
def selects (s : Selector) (labels : Table String) : Bool :=
  s.matchLabels.all fun e => labels.get? e.1 == some e.2

/-- Reads a selector; its labels may be missing. -/
def decode : Json → Option Selector :=
  read do
    let labels ← defaulted "matchLabels" [] (Json.table Json.text)
    pure ⟨labels⟩

/-- Writes a selector. -/
def encode (s : Selector) : Json :=
  .object [("matchLabels", Json.ofTexts s.matchLabels)]

end Selector

namespace SecretReference

/-- Reads a reference to a secret. -/
def decode : Json → Option SecretReference :=
  read do
    let name ← required "name" Json.text
    let ns ← required "namespace" Json.text
    pure ⟨name, ns⟩

/-- Writes a reference to a secret. -/
def encode (s : SecretReference) : Json :=
  .object [("name", .string s.name), ("namespace", .string s.ns)]

end SecretReference

namespace DeletionPolicy

/-- The name of a policy. -/
def name : DeletionPolicy → String
  | .delete => "Delete"
  | .orphan => "Orphan"

/-- The policy with this name. -/
def named : String → Option DeletionPolicy
  | "Delete" => some .delete
  | "Orphan" => some .orphan
  | _ => none

@[simp] theorem named_name (p : DeletionPolicy) : named p.name = some p := by
  cases p <;> rfl

/-- Reads a policy. -/
def decode : Json → Option DeletionPolicy :=
  Json.choice named

/-- Writes a policy. -/
def encode (p : DeletionPolicy) : Json :=
  .string p.name

end DeletionPolicy

end ResourceOperator
