import ResourceOperator.Cluster.Server
import ResourceOperator.Metadata
import ResourceOperator.Text.Base64
import ResourceOperator.Text.Search
import ResourceOperator.Text.Utf8

/-!
# Secrets

What the cluster keeps as a secret: octets under names, written in base64. Reading refuses an object
that says it is something else.

`getSecret` is what `from_secret` asks, and `removeSecret` what `delete_secret` does.
-/

namespace ResourceOperator.Cluster

open Json.Reader

/-- The entries of a secret, as octets. -/
structure Secret where
  data : Table (List Nat)
  deriving DecidableEq, Repr

namespace Secret

/-- Reads octets in base64. -/
def octets : Json → Option (List Nat)
  | .string s => Text.Base64.decode s
  | _ => none

/-- Reads this text and no other. -/
def exactly (expected : String) : Json → Option Unit
  | .string s => if s = expected then some () else none
  | _ => none

/-- Reads a secret. -/
def decode : Json → Option Secret :=
  readObject do
    let _ ← defaulted "apiVersion" () (exactly "v1")
    let _ ← defaulted "kind" () (exactly "Secret")
    let data ← optional "data" (Json.table octets)
    let _ ← optional "immutable" Json.flag
    let _ ← optional "metadata" Metadata.decode
    let _ ← optional "stringData" (Json.table Json.text)
    let _ ← optional "type" Json.text
    pure ⟨data.getD []⟩

/-- The text under a name, without the blanks around it. -/
def text? (name : String) (s : Secret) : Option String :=
  (Table.get? name s.data).map fun bytes => Text.trim (Text.Utf8.decodeLossy bytes)

end Secret

/-- Reads a secret from the cluster. -/
def getSecret (ns name : String) : Dialogue Server (Except Failure Secret) :=
  forNamed name (exchangeFor Secret.decode (getRequest (secretsPath ns ++ "/" ++ name)))

/-- Reads one cause of a failure. -/
def decodeCause : Json → Option Unit :=
  read do
    let _ ← defaulted "reason" "" Json.text
    let _ ← defaulted "message" "" Json.text
    let _ ← defaulted "field" "" Json.text
    pure ()

/-- Reads the details of a status. -/
def decodeDetails : Json → Option Unit :=
  read do
    let _ ← defaulted "name" "" Json.text
    let _ ← defaulted "group" "" Json.text
    let _ ← defaulted "kind" "" Json.text
    let _ ← defaulted "uid" "" Json.text
    let _ ← defaulted "causes" [] (Json.list decodeCause)
    let _ ← defaulted "retryAfterSeconds" 0 (Json.integer 0 4294967295)
    pure ()

/-- Reads what a deletion answers in the place of the object. -/
def decodeStatus : Json → Option Unit :=
  read do
    let outcome := fun (s : String) => if s = "Success" ∨ s = "Failure" then some () else none
    let _ ← lastOptional "status" (Json.choice outcome)
    let _ ← defaulted "code" 0 (Json.integer 0 65535)
    let _ ← defaulted "message" "" Json.text
    let _ ← defaulted "reason" "" Json.text
    let _ ← lastOptional "details" decodeDetails
    pure ()

/-- Reads the answer to a deletion: a status, or the secret. -/
def decodeDeletion (v : Json) : Option Unit :=
  if v.get? "kind" = some (.string "Status") then decodeStatus v
  else (Secret.decode v).map fun _ => ()

/-- Deletes a secret from the cluster. -/
def removeSecret (ns name : String) : Dialogue Server (Except Failure Unit) :=
  forNamed name
    (exchangeFor decodeDeletion (deleteRequest (secretsPath ns ++ "/" ++ name ++ "?")))

end ResourceOperator.Cluster
