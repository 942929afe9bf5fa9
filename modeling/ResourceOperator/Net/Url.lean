import ResourceOperator.Net.Address
import ResourceOperator.Net.Percent
import ResourceOperator.Text.Case
import ResourceOperator.Text.Search

/-!
# URLs

Absolute URLs of the web, read by the rules of the URL standard: blanks around them and line ends
in them are dropped, a backslash is a slash, dot segments are resolved, and characters that may
not stand in a path or a query are percent-encoded. A fragment is dropped, because it is never
sent.

`CloudClient` makes its URLs so, out of a base URL and a path that are joined as texts.
-/

namespace ResourceOperator.Net

/-- A URL. The path is a list of segments, at least one. -/
structure Url where
  secure : Bool
  authority : String
  path : List String
  query : Option String
  deriving DecidableEq, Repr

namespace Url

/-- Controls and blanks that may stand around a URL. -/
def isOuter (c : Char) : Bool :=
  c.toNat ≤ 0x20

/-- Tabs and line ends, which are dropped wherever they stand. -/
def isDropped (c : Char) : Bool :=
  c == '\t' || c == '\n' || c == '\r'

/-- The characters of a URL without those that do not count. -/
def relevant (s : String) : List Char :=
  let inner := s.toList.dropWhile isOuter
  (inner.reverse.dropWhile isOuter).reverse.filter fun c => !isDropped c

/-- A slash in either direction. -/
def isSlash (c : Char) : Bool :=
  c == '/' || c == '\\'

/-- What ends the path. -/
def endsPath (c : Char) : Bool :=
  c == '?' || c == '#'

/-- Whether a URL is secure, and what follows its scheme. -/
def scheme? (cs : List Char) : Option (Bool × List Char) :=
  match Text.splitFirst ':' cs with
  | none => none
  | some (scheme, rest) =>
    match (String.ofList scheme).toLower with
    | "http" => some (false, rest)
    | "https" => some (true, rest)
    | _ => none

/-- The segments of a path between slashes. -/
def segments : List Char → List (List Char)
  | [] => [[]]
  | c :: cs =>
    if isSlash c then [] :: segments cs
    else match segments cs with
      | [] => [[c]]
      | s :: rest => (c :: s) :: rest

/-- A segment that stands for the segment itself. -/
def isDot (segment : List Char) : Bool :=
  let s := (String.ofList segment).toLower
  s == "." || s == "%2e"

/-- A segment that stands for the segment above. -/
def isDoubleDot (segment : List Char) : Bool :=
  let s := (String.ofList segment).toLower
  s == ".." || s == ".%2e" || s == "%2e." || s == "%2e%2e"

/-- A segment as it is sent. -/
def encodeSegment (segment : List Char) : String :=
  String.ofList (Percent.encode Percent.inPath segment)

/-- Resolves dot segments, after the segments resolved so far, the last one first. A dot segment at
the end leaves an empty segment. -/
def resolve (above : List String) : List (List Char) → List String
  | [] => above.reverse
  | s :: rest =>
    if isDoubleDot s then resolve (if rest.isEmpty then "" :: above.tail else above.tail) rest
    else if isDot s then resolve (if rest.isEmpty then "" :: above else above) rest
    else resolve (encodeSegment s :: above) rest

/-- A number in an address of version 4: decimal, octal after a zero, hexadecimal after `0x`. -/
def hostNumber? (cs : List Char) : Option Nat :=
  let inBase := fun (base : Nat) (digits : List Char) =>
    let value? := fun (c : Char) => (Percent.hexValue? c).filter (· < base)
    (digits.mapM value?).map fun ds => ds.foldl (fun n d => n * base + d) 0
  match cs with
  | [] => none
  | '0' :: 'x' :: digits | '0' :: 'X' :: digits => inBase 16 digits
  | '0' :: digits => inBase 8 digits
  | digits => inBase 10 digits

/-- The address that a host of numbers denotes: the last number fills what the others leave. -/
def numericHost? (parts : List (List Char)) : Option Ipv4 := do
  let numbers ← parts.mapM hostNumber?
  let final ← numbers.getLast?
  let lead := numbers.dropLast
  if 4 < numbers.length || lead.any (255 < ·) then none
  else if Nat.pow 256 (5 - numbers.length) ≤ final then none
  else
    let high := lead.zipIdx.foldl (fun n (p, i) => n + p * Nat.pow 256 (3 - i)) 0
    some ⟨high + final⟩

/-- Characters that no host name holds. -/
def isForbiddenInHost (c : Char) : Bool :=
  c.toNat ≤ 0x20 || c.toNat == 0x7F || "#%/:<>?@[\\]^|".toList.contains c

/-- The text of a host. A host whose last part is a number is an address. -/
def host? (cs : List Char) : Option String :=
  match cs with
  | [] => none
  | '[' :: inside => match inside.getLast? with
    | some ']' => (Ipv6.parse? inside.dropLast).map fun a => "[" ++ a.text ++ "]"
    | _ => none
  | cs =>
    let name := (Text.lower (Percent.decode (String.ofList cs))).toList
    if name.isEmpty || name.any isForbiddenInHost then none
    else
      let parts := Text.splitAll ['.'] name
      let parts := if parts.getLast? == some [] && 1 < parts.length then parts.dropLast else parts
      let final := (parts.getLast?).getD []
      let isNumber := !final.isEmpty && (final.all Char.isDigit || (hostNumber? final).isSome)
      if isNumber then (numericHost? parts).map Ipv4.text else some (String.ofList name)

/-- A host and a channel on it, apart. Colons between brackets belong to the host. -/
def splitChannel : List Char → List Char × Option (List Char)
  | '[' :: cs =>
    let inside := cs.takeWhile (· != ']')
    match cs.dropWhile (· != ']') with
    | ']' :: ':' :: channel => ('[' :: (inside ++ [']']), some channel)
    | ']' :: rest => ('[' :: (inside ++ ']' :: rest), none)
    | rest => ('[' :: (inside ++ rest), none)
  | cs => match Text.splitFirst ':' cs with
    | some (host, channel) => (host, some channel)
    | none => (cs, none)

/-- The text of host and channel; the usual channel is left out. -/
def authority? (secure : Bool) (cs : List Char) : Option String := do
  let (host, channel) := splitChannel (cs.reverse.takeWhile (· != '@')).reverse
  let host ← host? host
  match channel with
  | none | some [] => some host
  | some digits =>
    let n ← SocketAddress.channel? digits
    if n = (if secure then 443 else 80) then some host else some (host ++ ":" ++ toString n)

/-- Reads a URL. -/
def parse? (s : String) : Option Url := do
  let (secure, rest) ← scheme? (relevant s)
  let rest := rest.dropWhile isSlash
  let stops := fun (c : Char) => isSlash c || endsPath c
  let authority ← authority? secure (rest.takeWhile fun c => !stops c)
  let rest := rest.dropWhile fun c => !stops c
  let path := rest.takeWhile fun c => !endsPath c
  let path := match path with
    | [] => []
    | _ :: inner => inner
  let query := match rest.dropWhile fun c => !endsPath c with
    | '?' :: query =>
      some (String.ofList (Percent.encode Percent.inQuery (query.takeWhile (· != '#'))))
    | _ => none
  some ⟨secure, authority, resolve [] (segments path), query⟩

/-- The URL with pairs added to its query. -/
def withQuery (pairs : List (String × String)) (url : Url) : Url :=
  let added := Form.encode pairs
  { url with query := some (match url.query with
    | some q => if q.isEmpty then added else q ++ "&" ++ added
    | none => added) }

/-- The text of the path. -/
def pathText (url : Url) : String :=
  String.join (url.path.map fun s => "/" ++ s)

/-- What a request names: the path and the query. -/
def target (url : Url) : String :=
  url.pathText ++ (match url.query with
    | some q => "?" ++ q
    | none => "")

end Url

end ResourceOperator.Net
