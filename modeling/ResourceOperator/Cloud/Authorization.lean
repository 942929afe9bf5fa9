import ResourceOperator.Cloud.Wire
import ResourceOperator.Cluster.Secret

/-!
# Bearer tokens

A key is exchanged for a token that is valid for a while. The token is kept until shortly before it
expires; a request for a new one that fails leaves the one that is kept.

Model of `IamAuthenticator`: its `token` (`Credential.token`, and `renew` for the request), and
`from_secret` (`Credential.ofSecret`).
-/

namespace ResourceOperator.Cloud

open Json.Reader

/-- A key, and where it is exchanged for tokens. -/
structure Credential where
  endpoint : String
  apiKey : String
  deriving DecidableEq, Repr

/-- A token is renewed this many seconds before it expires. -/
def Token.renewalMargin : Int := 60

/-- The token is good for longer than the margin. -/
def Token.isFresh (t : Token) (now : Int) : Bool :=
  now < t.expiration - renewalMargin

/-- Reads the answer to a request for a token. -/
def Token.decode {D : Type} [Json.Document D] : D → Option Token :=
  read do
    let text ← required "access_token" Json.text
    let expiration ← required "expiration" Json.int64
    pure ⟨text, expiration⟩

namespace Credential

/-- The request for a token, if the endpoint is a URL. -/
def request? (c : Credential) : Option (Net.Request Net.Url) :=
  (Net.Url.parse? c.endpoint).map fun url =>
    { method := .post
      address := url
      accept := some Net.jsonType
      authorization := none
      contentType := some Net.Form.contentType
      body := some (Net.Form.encode
        [("grant_type", "urn:ibm:params:oauth:grant-type:apikey"), ("apikey", c.apiKey)]) }

/-- Asks for a new token and keeps it. -/
def renew (c : Credential) : Session String := do
  match c.request? with
  | none => Session.fail .http
  | some request =>
    let response ← Session.send request
    if response.isSuccess then
      let token ← Session.readBody Token.decode response
      Session.keep token
      pure token.text
    else
      Session.fail (.auth
        ("token request failed (" ++ toString response.status ++ "): " ++ response.body))

/-- The token to use now: the one that is kept while it is fresh, else a new one. -/
def token (c : Credential) : Session String := do
  match ← Session.kept with
  | none => c.renew
  | some token =>
    let now ← Session.clock
    if token.isFresh now then pure token.text else c.renew

/-- The credential whose key a secret of the cluster holds. -/
def ofSecret (ns name key endpoint : String) :
    Dialogue Cluster.Server (Except Failure Credential) := do
  match ← Cluster.getSecret ns name with
  | .error e => pure (.error (.cluster e))
  | .ok secret => match (secret.text? key).filter fun text => !text.isEmpty with
    | some apiKey => pure (.ok ⟨endpoint, apiKey⟩)
    | none => pure (.error (.auth ("secret " ++ ns ++ "/" ++ name ++ " has no key " ++ key)))

end Credential

end ResourceOperator.Cloud
