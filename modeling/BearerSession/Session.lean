import BearerSession.Session.Auth
import BearerSession.Session.Gate
import BearerSession.Session.Login

namespace BearerSession

open GraphQL (Request RequestError Transport)

/-- What can be chosen about a session. -/
structure SessionOptions where
  keys : CredentialKeys := {}
  ttl : Span := defaultTtl
  /-- Whether refreshes that are wanted at the same time are made one. -/
  singleFlight : Bool := false
  deriving DecidableEq

/-- A session and its surroundings. -/
structure Session (m : Type → Type) where
  transport : Transport m
  destination : Url
  store : Store m
  log : Log m
  redirect : m Unit
  keys : CredentialKeys
  ttl : Span
  gate : Option (Gate m)

namespace Session

variable {m : Type → Type} [Monad m]

def isAuthenticated (s : Session m) : m (Except StoreError Bool) := s.store.isAuthenticated s.keys

def login (s : Session m) (email : String) (password : Secret) : m (Except LoginError TokenPair) :=
  BearerSession.login s.transport s.destination s.store s.log s.keys s.ttl email password

def refresh (s : Session m) : m (Except RefreshError AccessGrant) :=
  BearerSession.refresh (requestAccessGrant s.transport s.destination) s.store s.log s.keys s.ttl

def logout (s : Session m) : m (Except StoreError Unit) :=
  BearerSession.logout s.store s.log s.keys s.redirect

/-- The headers of an attempt; without a readable credential it is sent without. -/
def authHeaders (s : Session m) : m Headers := do
  match ← bearerHeaders s.store s.keys with
  | .ok headers => return headers
  | .error e =>
    s.log.warn ("Could not read access token, sending unauthenticated: " ++ e.message)
    return .empty

/-- A refresh without its credential. -/
def refreshOutcome (s : Session m) : m RefreshOutcome := do
  return (← s.refresh).map fun _ => ()

/-- Recovers credentials by a refresh, through the gate if there is one. -/
def recover (s : Session m) : m (Except Failure Unit) := do
  let outcome ← match s.gate with
    | some gate => gate.run s.log s.refreshOutcome
    | none => s.refreshOutcome
  return outcome.mapError fun e => e.message :: e.sources

/-- Logs out after a failed recovery. -/
def invalidate (s : Session m) : m Unit := do
  match ← s.logout with
  | .ok () => pure ()
  | .error e => s.log.warn ("Logout after failed refresh did not complete: " ++ e.message)

def hooks (s : Session m) : AuthHooks m :=
  ⟨some s.authHeaders, some s.recover, some s.invalidate⟩

/-- Sends a request with the stored access credential. -/
def request (s : Session m) (r : Request) : m (Except RequestError (Option Json.Value)) :=
  Auth.send s.transport s.log s.destination r s.hooks

/-- Sends a request and reads the data of its answer. -/
def requestAs {α : Type} (s : Session m) (r : Request) (read : Json.Reader α) :
    m (Except RequestError α) :=
  Auth.sendAs s.transport s.log s.destination r s.hooks read

end Session

end BearerSession
