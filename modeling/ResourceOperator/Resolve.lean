import ResourceOperator.Dialogue
import ResourceOperator.Failure
import ResourceOperator.Json.Printer
import ResourceOperator.Managed

/-!
# Resolving references

A field may be given directly, through a reference by name, or through a selector by labels.
`resolve` finds its value and the reference that produced it. A value without a selector is kept; a
reference goes before a selector; a selector must pick exactly one object.

Beside `resolve` stand `is_pending` and the three texts that are taken from an object:
`extract_external_name`, `extract_connection_secret` and `extract_kafka_admin_url`.
`Resolution.Request` is `ResolutionRequest`, and `Resolution` is `ResolutionResponse`.
-/

namespace ResourceOperator

/-- Questions about the declared objects of one kind. -/
inductive LookupCall where
  | get (name : String)
  | list
  deriving DecidableEq, Repr

/-- What a question about objects of kind `k` yields. -/
abbrev LookupCall.Result (k : Kind) : LookupCall → Type
  | .get _ => Managed k
  | .list => List (Managed k)

/-- The declared objects of kind `k`. -/
def Lookup (k : Kind) : Interface where
  Question := LookupCall
  Answer c := Except EngineError (c.Result k)

/-- A field to resolve from objects of kind `k`. -/
structure Resolution.Request (k : Kind) where
  field : String
  current : String
  reference : Option Reference
  selector : Option Selector
  extract : Managed k → String

/-- What a field resolves to. -/
structure Resolution where
  value : String
  reference : Option Reference
  deriving DecidableEq, Repr

namespace Resolution

variable {k : Kind}

/-- The designated object exists and has no value yet, or there is nothing to resolve from. -/
def isPending (r : Resolution) : Bool :=
  r.value.isEmpty

/-- The resolution by the objects that a selector picks. -/
def ofMatches (request : Request k) (found : List (Managed k)) : Except EngineError Resolution :=
  match found with
  | [] => .error (.notFound ("no object matches the " ++ request.field ++ " selector"))
  | [target] => .ok ⟨request.extract target, some ⟨target.displayName⟩⟩
  | _ => .error (.ambiguousReference request.field found.length)

/-- Resolves a field. -/
def resolve (request : Request k) : Dialogue (Lookup k) (Except EngineError Resolution) :=
  if !request.current.isEmpty && request.selector.isNone then
    pure (.ok ⟨request.current, request.reference⟩)
  else match request.reference with
    | some reference => do
      let answer ← Dialogue.call (I := Lookup k) (.get reference.name)
      match answer with
      | .error e => pure (.error (.resolutionFailed request.field e))
      | .ok target => pure (.ok ⟨request.extract target, some reference⟩)
    | none => match request.selector with
      | none => pure (.ok ⟨"", none⟩)
      | some selector => do
        let answer ← Dialogue.call (I := Lookup k) .list
        match answer with
        | .error e => pure (.error (.resolutionFailed request.field e))
        | .ok candidates =>
          let selected := candidates.filter fun c => selector.selects c.metadata.labelTable
          pure (ofMatches request selected)

end Resolution

namespace Managed

variable {k : Kind}

/-- The id of the remote object, empty when it is not known. -/
def externalNameText (r : Managed k) : String :=
  r.externalName.getD ""

/-- The secret that receives connection details, as compact JSON, empty when there is none. -/
def connectionSecretText (r : Managed k) : String :=
  (r.connectionSecret.map fun s => s.encode.render).getD ""

/-- The admin URL that a resource key has observed, empty when there is none. -/
def kafkaAdminUrlText (r : Managed .resourceKey) : String :=
  ((r.status.bind Status.atProvider).bind ResourceKey.Observation.kafkaAdminUrl).getD ""

end Managed

end ResourceOperator
