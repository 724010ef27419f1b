import BearerSession.GraphQL.Envelope
import BearerSession.GraphQL.Headers
import BearerSession.Url.Basic

namespace BearerSession.GraphQL

open Json (Value Reader ReadError)

/-- A request: a query document, its variables if it is sent any, and headers. -/
structure Request where
  query : String
  variableValues : Option Value := none
  headers : Headers := .empty

/-- A message ready to be sent. -/
structure Outgoing where
  method : String
  body : String
  headers : Headers
  deriving DecidableEq

/-- Why an endpoint refuses a request for want of credentials. -/
inductive AuthFailure
  | tokenRequired
  | invalidToken
  deriving DecidableEq

namespace AuthFailure

/-- The message that reports a failure. -/
def message : AuthFailure → String
  | tokenRequired => "Authentication token required"
  | invalidToken => "Invalid token"

/-- The failure that a message reports. -/
def ofMessage? (m : String) : Option AuthFailure :=
  if m = tokenRequired.message then some tokenRequired
  else if m = invalidToken.message then some invalidToken
  else none

end AuthFailure

/-- The errors of an answer that lists any. -/
structure ClassifiedError where
  errors : List ReportedError

namespace ClassifiedError

def messages (e : ClassifiedError) : List String := e.errors.map (·.message)

/-- The first authentication failure that an error reports. -/
def authFailure? (e : ClassifiedError) : Option AuthFailure :=
  e.messages.findSome? AuthFailure.ofMessage?

def text (e : ClassifiedError) : String := "request failed: " ++ String.intercalate "; " e.messages

end ClassifiedError

/-- Why no answer was received. -/
inductive TransportError
  | network
  | undecodable (status : Nat) (error : ReadError)
  deriving DecidableEq

namespace TransportError

/-- The words for a network failure, which the network supplies. -/
def networkText : String := "<network>"

/-- The words for a failure. -/
def message : TransportError → String
  | network => "network error: " ++ networkText
  | undecodable status error =>
    "invalid response body (HTTP " ++ toString status ++ "): " ++ error.message

/-- The words for the failures behind a failure, nearest first. -/
def sources : TransportError → List String
  | network => [networkText]
  | undecodable _ error => [error.message]

end TransportError

/-- Why a request gave no data. -/
inductive RequestError
  | transport (error : TransportError)
  | classified (error : ClassifiedError)
  | payload (error : ReadError)

namespace RequestError

/-- The words for a failure. -/
def message : RequestError → String
  | transport e => e.message
  | classified e => e.text
  | payload e => "payload error: " ++ e.message

/-- The words for the failures behind a failure, nearest first. -/
def sources : RequestError → List String
  | transport e => e.sources
  | classified _ => []
  | payload e => [e.message]

/-- The authentication failure that a failed request reports. -/
def authFailure? : RequestError → Option AuthFailure
  | classified e => e.authFailure?
  | _ => none

end RequestError

/-- The header that tells the type of a body. -/
def contentType : String := "Content-Type"

/-- The headers of every request. -/
def defaultHeaders : Headers := SortedMap.empty.insert contentType "application/json"

namespace Request

/-- The body of a request: its document, and its variables where it has any. -/
def body (r : Request) : Value :=
  .object (("query", .string r.query) :: (r.variableValues.map fun v => ("variables", v)).toList)

def outgoing (r : Request) : Outgoing :=
  ⟨"POST", r.body.text, defaultHeaders.overlay r.headers⟩

end Request

/-- A way to send messages. -/
structure Transport (m : Type → Type) where
  send : Url → Outgoing → m (Except TransportError Envelope)

variable {m : Type → Type} [Monad m]

/-- Sends a request and gives the data of its answer. -/
def send (transport : Transport m) (destination : Url) (request : Request) :
    m (Except RequestError (Option Value)) := do
  match ← transport.send destination request.outgoing with
  | .error e => return .error (.transport e)
  | .ok envelope =>
    match envelope.split with
    | .ok data => return .ok data
    | .error errors => return .error (.classified ⟨errors⟩)

/-- Reads the data of an answer, null if there are none. -/
def decode {α : Type} (read : Reader α) (data : Option Value) : Except RequestError α :=
  match Json.readMemory read (data.getD .null) with
  | .ok a => .ok a
  | .error e => .error (.payload e)

/-- Sends a request and reads the data of its answer. -/
def sendAs {α : Type} (transport : Transport m) (destination : Url) (request : Request)
    (read : Reader α) : m (Except RequestError α) := do
  return (← send transport destination request).bind (decode read)

end BearerSession.GraphQL
