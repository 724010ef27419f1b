import BearerSession.GraphQL.Request
import BearerSession.Http.Base64
import BearerSession.Text.Characters
import BearerSession.Text.Utf8

namespace BearerSession.Http

open GraphQL (Envelope Outgoing TransportError)

/-- A request as it goes over a connection. -/
structure Message where
  start : String
  headers : List (String × String)
  body : String
  deriving DecidableEq

/-- Whether a character may stand in the value of a header: no control character but a tab. -/
def isValueChar (c : Char) : Bool := c = '\t' || (0x20 ≤ c.toNat && c.toNat ≠ 0x7F)

/-- The header of one name and value; its name is in lower case. -/
def header? (name value : String) : Option (String × String) :=
  if isToken name && value.toList.all isValueChar then
    some (String.ofList (name.toList.map Char.toLower), value)
  else none

/-- A text in which encoded octets are decoded, if they form a text. -/
def plain? (s : String) : Option String :=
  (Glyph.text? (Utf8.decode (Percent.decode s.toList))).map String.ofList

/-- The header for a user and a password in an address. -/
def basicHeader (authority : Authority) : List (String × String) :=
  match plain? authority.username, authority.password.bind plain? with
  | none, _ => []
  | some user, password =>
    if user.isEmpty && password.isNone then []
    else
      let pair := Percent.octets (user ++ ":" ++ password.getD "").toList
      [("authorization", "Basic " ++ String.ofList (Base64.encode pair))]

/-- A destination as it goes over a connection, without its user. -/
def bare (destination : Url) : Url :=
  { destination with
    authority := destination.authority.map fun a => { host := a.host, port := a.port } }

/-- The octets that a destination may have. -/
def destinationLimit : Nat := 65534

/-- The characters of a host that cannot be written in a request. -/
def unsent : List Char := ['"', Char.ofNat 0x60, Char.ofNat 0x7B, Char.ofNat 0x7D]

/-- Whether requests can be sent to a destination. -/
def isReachable (destination : Url) : Bool :=
  (destination.scheme = "http" || destination.scheme = "https")
    && (bare destination).href.utf8ByteSize ≤ destinationLimit
    && !destination.authority.any fun a => a.host.toList.any unsent.contains

/-- The headers of a request, if each of them can be carried. -/
def headers? (destination : Url) (m : Outgoing) : Option (List (String × String)) := do
  return ((destination.authority.map basicHeader).getD []) ++ (← m.headers.toList.mapM fun (name, value) => header? name value)

/-- What is sent for a request, if it can be. The request line holds the path and the query. -/
def Message.of? (destination : Url) (m : Outgoing) : Option Message :=
  if isReachable destination then
    (headers? destination m).map fun headers =>
      ⟨m.method ++ " " ++ destination.target ++ " HTTP/1.1", headers, m.body⟩
  else none

/-- Whether an answer has a body: none that tells so by its status, and none to a request for
headers alone. -/
def hasBody (method : String) (status : Nat) : Bool :=
  method ≠ "HEAD" && status ≠ 204 && status ≠ 304

/-- What an answer holds. -/
def answer (method : String) (status : Nat) (body : List Glyph) : Except TransportError Envelope :=
  let body := if hasBody method status then body else []
  (Json.readText Envelope.read body).mapError (.undecodable status)

/-- Sends a request and reads the answer that a server gives to it; a request that cannot be
carried gives no message. -/
def exchange (server : Message → Nat × List Glyph) (destination : Url) (m : Outgoing) :
    Except TransportError Envelope × List Message :=
  match Message.of? destination m with
  | none => (.error .network, [])
  | some message =>
    let (status, body) := server message
    (answer m.method status body, [message])

end BearerSession.Http
