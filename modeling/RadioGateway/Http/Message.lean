import RadioGateway.Attributes
import RadioGateway.Text.PercentCoding

/-!
# Requests and responses of the web interface
-/

namespace RadioGateway.Http

structure Target where
  /-- The parts of the path between its slashes, still percent-encoded. -/
  segments : List String
  query : String := ""
  deriving DecidableEq, Repr

namespace Target

def parts (separator : Char) : List Char → List (List Char)
  | [] => [[]]
  | char :: rest =>
      if char = separator then [] :: parts separator rest
      else
        match parts separator rest with
        | [] => [[char]]
        | first :: others => (char :: first) :: others

/-- The text behind the scheme and the host of an absolute target. -/
def withoutHost : List Char → List Char
  | [] => []
  | ':' :: '/' :: '/' :: rest => rest.dropWhile fun char => char ≠ '/' && char ≠ '?' && char ≠ '#'
  | _ :: rest => withoutHost rest

/-- Reads a request target; a fragment does not count. -/
def ofString (text : String) : Target :=
  let rooted := if text.startsWith "/" then text.toList else withoutHost text.toList
  let whole := rooted.takeWhile (· ≠ '#')
  let path := whole.takeWhile (· ≠ '?')
  { segments := (parts '/' (path.drop 1)).map String.ofList
    query := String.ofList ((whole.dropWhile (· ≠ '?')).drop 1) }

/-- The attributes in the query; the last one of a name counts. -/
def attributes (target : Target) : Attributes :=
  SortedMap.ofList (PercentCoding.decodeForm target.query)

def decodeSegment? (segment : String) : Option String :=
  Utf8.decode? (PercentCoding.decode (Utf8.encode segment))

end Target

inductive Method where
  | get
  /-- Like `get`, but the body is not sent. -/
  | head
  | post
  | other
  deriving DecidableEq, Repr

/-- Method names are case-sensitive. -/
def Method.ofString (name : String) : Method :=
  if name = "GET" then .get
  else if name = "HEAD" then .head
  else if name = "POST" then .post
  else .other

structure Request where
  method : Method
  target : Target
  deriving DecidableEq, Repr

inductive Refusal where
  | malformed
  | notFound
  | methodNotAllowed
  | unavailable
  deriving DecidableEq, Repr

inductive Reply where
  | state (attributes : Attributes)
  | applied
  | refused (refusal : Refusal)
  deriving DecidableEq, Repr

namespace Reply

def status : Reply → Nat
  | state _ => 200
  | applied => 200
  | refused .malformed => 400
  | refused .notFound => 404
  | refused .methodNotAllowed => 405
  | refused .unavailable => 503

end Reply

/-- The name that every response carries. -/
def serverName : String := "mesh-gateway"

/-- A response on the wire; the body of a refusal is of no interest. -/
structure Response where
  status : Nat
  server : String := serverName
  contentType : Option String := none
  body : Option String := none
  deriving DecidableEq, Repr

def Reply.response (method : Method) (reply : Reply) : Response :=
  match reply with
  | .state attributes =>
      { status := reply.status
        contentType := some "application/x-www-form-urlencoded"
        body := some (if method = .head then "" else PercentCoding.encodeForm attributes.toList) }
  | .applied => { status := reply.status, body := some "" }
  | .refused _ => { status := reply.status }

end RadioGateway.Http
