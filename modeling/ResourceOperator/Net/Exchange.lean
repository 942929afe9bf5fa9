/-!
# Requests and responses

What one exchange over HTTP carries, for any way of addressing the receiver. A target is a path with
an optional query, sent as it is: some characters may not stand in it, and a fragment is cut off.

A `Request` is what `execute` sends, and a `Response` what it is answered.
-/

namespace ResourceOperator.Net

/-- What a request does. -/
inductive Method where
  | get
  | head
  | post
  | patch
  | delete
  deriving DecidableEq, Repr

/-- The name of a method. -/
def Method.name : Method → String
  | .get => "GET"
  | .head => "HEAD"
  | .post => "POST"
  | .patch => "PATCH"
  | .delete => "DELETE"

/-- A request with an address of some type. -/
structure Request (Address : Type) where
  method : Method
  address : Address
  accept : Option String
  authorization : Option String
  contentType : Option String
  body : Option String
  deriving DecidableEq, Repr

/-- A response. -/
structure Response where
  status : Nat
  body : String
  deriving DecidableEq, Repr

/-- The content type of JSON. -/
def jsonType : String := "application/json"

/-- The content type of merge patches. -/
def mergePatchType : String := "application/merge-patch+json"

namespace Response

/-- The request succeeded. -/
def isSuccess (r : Response) : Bool :=
  200 ≤ r.status && r.status < 300

/-- The client or the server failed. -/
def isFailure (r : Response) : Bool :=
  400 ≤ r.status && r.status < 600

end Response

/-- Text that may stand in a header: no controls but the tab. -/
def isHeaderText (s : String) : Bool :=
  s.toList.all fun c => c == '\t' || (0x20 ≤ c.toNat && c.toNat != 0x7F)

/-- A character that may stand in the path of a target. -/
def inTargetPath (c : Char) : Bool :=
  let n := c.toNat
  n == 0x21 || n == 0x22 || (0x24 ≤ n && n ≤ 0x3B) || n == 0x3D || (0x40 ≤ n && n ≤ 0x5F) ||
    0x61 ≤ n

/-- A character that may stand in the query of a target. -/
def inTargetQuery (c : Char) : Bool :=
  let n := c.toNat
  n == 0x21 || (0x24 ≤ n && n ≤ 0x3B) || n == 0x3D || 0x3F ≤ n

/-- The target that a text denotes: the text up to a fragment, if every character may stand there.
-/
def target? (s : String) : Option String :=
  let cs := s.toList.takeWhile (· != '#')
  let path := cs.takeWhile (· != '?')
  let query := (cs.dropWhile (· != '?')).drop 1
  if path.all inTargetPath && query.all inTargetQuery then some (String.ofList cs) else none

end ResourceOperator.Net
