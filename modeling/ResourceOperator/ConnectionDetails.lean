import ResourceOperator.Failure
import ResourceOperator.Json.Flatten
import ResourceOperator.Template.Evaluation
import ResourceOperator.Template.Grammar

/-!
# Connection details

What a secret publishes of issued credentials. With templates, each key holds its template rendered
against the credentials, and one failure means that nothing is published; without templates, the
credentials are flattened into dotted keys. Only the members of an object can be named in a
template; other credentials define nothing.

`extract` is `extract_connection_details`.
-/

namespace ResourceOperator

namespace Template

/-- The names that credentials define. -/
def namesOf : Json → List (Value × Value)
  | .object members => Value.ofMembers members
  | _ => []

/-- The text of a template for credentials. -/
def render (template : String) (credentials : Json) : Except Failure String := do
  let (body, blocks) ← read template
  let fuel := 1024 * (template.length + 16)
  let scope : Scope := ⟨[Frame.empty], #[], namesOf credentials, blocks, false, 0, ""⟩
  let (_, scope) ← (runAll fuel body).run scope
  return scope.output

end Template

namespace ConnectionDetails

/-- Renders every template in key order, up to the first that fails. -/
def renderAll (render : String → Except Template.Failure String) :
    Table String → Except EngineError (Table String)
  | [] => .ok []
  | (key, template) :: rest => match render template with
    | .error e => .error (.template key e)
    | .ok text => match renderAll render rest with
      | .error e => .error e
      | .ok details => .ok ((key, text) :: details)

/-- The connection details of credentials. -/
def extract (templates : Table String) (credentials : Json) : Except EngineError (Table String) :=
  if templates.isEmpty then .ok credentials.flatten
  else renderAll (fun t => Template.render t credentials) templates

end ConnectionDetails

end ResourceOperator
