import BearerSession.GraphQL.Request
import BearerSession.Store.Basic

namespace BearerSession

open GraphQL (Request RequestError Transport)

/-- A failure and those behind it, nearest last. -/
abbrev Failure := List String

def Failure.line (f : Failure) : String := String.intercalate ": " f

/-- The header that carries the access credential. -/
def authorization : String := "Authorization"

/-- The header for an access credential. -/
def bearer (access : Secret) : Headers :=
  SortedMap.empty.insert authorization ("Bearer " ++ access.expose)

/-- The header for the stored access credential, if there is one. -/
def bearerHeaders {m : Type → Type} [Monad m] (store : Store m) (keys : CredentialKeys) :
    m (Except StoreError Headers) := do
  return (← store.get keys.access).map fun
    | some access => bearer access
    | none => .empty

/-- What authenticated requests ask of their surroundings; each hook may be absent. -/
structure AuthHooks (m : Type → Type) where
  /-- Supplies the headers of each attempt. -/
  authHeader : Option (m Headers) := none
  /-- Recovers credentials that were refused. -/
  unauthorized : Option (m (Except Failure Unit)) := none
  /-- Is told that recovery failed. -/
  invalidTokens : Option (m Unit) := none

namespace AuthHooks

variable {m : Type → Type} [Monad m]

def headers (hooks : AuthHooks m) : m Headers := hooks.authHeader.getD (pure .empty)

/-- Recovery, which succeeds where there is nothing to do. -/
def recover (hooks : AuthHooks m) : m (Except Failure Unit) :=
  hooks.unauthorized.getD (pure (.ok ()))

def invalidate (hooks : AuthHooks m) : m Unit := hooks.invalidTokens.getD (pure ())

end AuthHooks

/-- The two attempts that a request may take. -/
inductive Attempt
  | primary
  | retry
  deriving DecidableEq

/-- The name of an attempt. -/
def Attempt.name : Attempt → String
  | primary => "primary"
  | retry => "retry"

namespace Auth

variable {m : Type → Type} [Monad m]

/-- Sends a request with the headers of the hook over its own. -/
def attempt (transport : Transport m) (log : Log m) (destination : Url) (request : Request)
    (hooks : AuthHooks m) (kind : Attempt) : m (Except RequestError (Option Json.Value)) := do
  let auth ← hooks.headers
  log.debug ("Sending " ++ kind.name ++ " attempt to " ++ destination.href ++ " (authorized: "
    ++ (if auth.isEmpty then "false" else "true") ++ ")")
  GraphQL.send transport destination { request with headers := request.headers.overlay auth }

/-- Sends a request, and once more if it fails for want of credentials, whatever recovery gave. -/
def send (transport : Transport m) (log : Log m) (destination : Url) (request : Request)
    (hooks : AuthHooks m) : m (Except RequestError (Option Json.Value)) := do
  match ← attempt transport log destination request hooks .primary with
  | .ok data => return .ok data
  | .error failure =>
    match failure.authFailure? with
    | none => return .error failure
    | some reason =>
      log.warn ("Request to " ++ destination.href ++ " rejected (" ++ reason.message
        ++ "), recovering credentials")
      match ← hooks.recover with
      | .ok () => pure ()
      | .error e =>
        log.warn ("Credential recovery failed: " ++ e.line)
        hooks.invalidate
      attempt transport log destination request hooks .retry

/-- Sends a request and reads the data of its answer. -/
def sendAs {α : Type} (transport : Transport m) (log : Log m) (destination : Url)
    (request : Request) (hooks : AuthHooks m) (read : Json.Reader α) : m (Except RequestError α) := do
  return (← send transport log destination request hooks).bind (GraphQL.decode read)

end Auth

end BearerSession
