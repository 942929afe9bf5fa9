import ResourceOperator.Dialogue
import ResourceOperator.Failure
import ResourceOperator.Json.Parser
import ResourceOperator.Net.Exchange
import ResourceOperator.Net.Url

/-!
# Exchanges with the cloud

What calls to the cloud ask of their surroundings: an exchange over HTTP, and the time. An exchange
that is not completed has no response.

A `Session` is what a method of `CloudClient` or `IamAuthenticator` does, and `Token` is the
`CachedToken` between them. `readBody` reads a record out of the text of a body as it stands.
-/

namespace ResourceOperator.Cloud

/-- A question on the wire. -/
inductive WireCall where
  | exchange (request : Net.Request Net.Url)
  | clock
  deriving DecidableEq, Repr

/-- The wire: responses, and the time in seconds. -/
def Wire : Interface where
  Question := WireCall
  Answer
    | .exchange _ => Option Net.Response
    | .clock => Int

/-- A bearer token and the time at which it expires. -/
structure Token where
  text : String
  expiration : Int
  deriving DecidableEq, Repr

/-- Steps on the wire that may fail, with the token that is kept between calls. -/
abbrev Session (α : Type) : Type :=
  Option Token → Dialogue Wire (Except Failure α × Option Token)

namespace Session

variable {α β : Type}

/-- A step with this result. -/
def ofResult (result : Except Failure α) : Session α := fun kept =>
  .done (result, kept)

/-- One step and then another, unless the first fails. -/
def bind (s : Session α) (f : α → Session β) : Session β := fun kept =>
  (s kept).bind fun (result, kept) => match result with
    | .ok a => f a kept
    | .error e => .done (.error e, kept)

instance : Monad Session where
  pure a := ofResult (.ok a)
  bind := bind

/-- Fails. -/
def fail (failure : Failure) : Session α :=
  ofResult (.error failure)

/-- The token that is kept. -/
def kept : Session (Option Token) := fun token =>
  .done (.ok token, token)

/-- Keeps a token. -/
def keep (token : Token) : Session Unit := fun _ =>
  .done (.ok (), some token)

/-- The time. -/
def clock : Session Int := fun token =>
  .ask (I := Wire) .clock fun now => .done (.ok now, token)

/-- Sends a request. A request that gets no response is a failure. -/
def send (request : Net.Request Net.Url) : Session Net.Response := fun token =>
  .ask (I := Wire) (.exchange request) fun answer => match answer with
    | some response => .done (.ok response, token)
    | none => .done (.error .http, token)

/-- Reads the body of a response; one of another form is a failure of the exchange. -/
def readBody (decode : Json.Draft → Option α) (response : Net.Response) : Session α :=
  match Json.readText decode response.body with
  | some a => ofResult (.ok a)
  | none => fail .http

end Session

end ResourceOperator.Cloud
