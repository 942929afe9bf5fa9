import ResourceOperator.Dialogue
import ResourceOperator.Failure
import ResourceOperator.Json.Parser
import ResourceOperator.Json.Printer
import ResourceOperator.Json.Record
import ResourceOperator.Kind
import ResourceOperator.Net.Exchange

/-!
# The API server of the cluster

Requests for objects by path. A response with a code from 400 on is a failure, which the body
reports when it has the form of a report. A request whose target cannot be sent, or that gets no
response, is unanswered, and so is one whose response cannot be read.

The requests are those of the `get`, `list`, `patch` and `delete` of an `Api`, with the parameters
that `KubeStore` gives them.
-/

namespace ResourceOperator.Cluster

open Json.Reader

/-- The API server, which responds to a request or does not. -/
def Server : Interface where
  Question := Net.Request String
  Answer _ := Option Net.Response

namespace Report

/-- Reads a report. -/
def decode : Json → Option Report :=
  read do
    let status ← required "status" Json.text
    let message ← defaulted "message" "" Json.text
    let reason ← defaulted "reason" "" Json.text
    let code ← required "code" (Json.integer 0 65535)
    pure ⟨status, message, reason, code.toNat⟩

/-- The report of a failed response; one whose body is no report has its code. -/
def ofResponse (r : Net.Response) : Report :=
  match (Json.parse r.body).bind decode with
  | some report => report
  | none => ⟨toString r.status, Text.Quoted.quote r.body, "Failed to parse error data", r.status⟩

end Report

/-- Sends a request and gives the body of the response. -/
def exchange (request : Net.Request String) : Dialogue Server (Except Failure String) :=
  match Net.target? request.address with
  | none => pure (.error .unanswered)
  | some target => do
    match ← Dialogue.call (I := Server) { request with address := target } with
    | none => pure (.error .unanswered)
    | some r => pure (if r.isFailure then .error (.answered (Report.ofResponse r)) else .ok r.body)

/-- Sends a request and reads the body of the response. -/
def exchangeFor {α : Type} (decode : Json → Option α) (request : Net.Request String) :
    Dialogue Server (Except Failure α) := do
  match ← exchange request with
  | .error e => pure (.error e)
  | .ok body => match (Json.parse body).bind decode with
    | some a => pure (.ok a)
    | none => pure (.error .unanswered)

/-- The name under which the operator owns the fields it writes. -/
def fieldManager : String := "provider-controller"

/-- The path of the objects of a kind. -/
def collectionPath (k : Kind) : String :=
  "/apis/" ++ k.group ++ "/" ++ Kind.version ++ "/" ++ k.plural

/-- The path of the secrets of a namespace. -/
def secretsPath (ns : String) : String :=
  "/api/v1/namespaces/" ++ ns ++ "/secrets"

/-- A request without headers and body. -/
def getRequest (target : String) : Net.Request String :=
  ⟨.get, target, none, none, none, none⟩

/-- A request that changes an object. -/
def patchRequest (target contentType : String) (patch : Json) : Net.Request String :=
  ⟨.patch, target, some Net.jsonType, none, some contentType, some patch.render⟩

/-- A request that deletes an object. -/
def deleteRequest (target : String) : Net.Request String :=
  ⟨.delete, target, none, none, some Net.jsonType, some (Json.object []).render⟩

/-- Asks for something about a named object; an empty name designates none. -/
def forNamed {α : Type} (name : String) (ask : Dialogue Server (Except Failure α)) :
    Dialogue Server (Except Failure α) :=
  if name.isEmpty then pure (.error .unanswered) else ask

end ResourceOperator.Cluster
