import BearerSession.GraphQL.Mutation
import BearerSession.GraphQL.Request
import BearerSession.Store.Basic

namespace BearerSession

open GraphQL (Problem MutationResult RequestError Transport)

/-- The mutation that exchanges an email address and a password. -/
def loginMutation : String := "mutation Login($email: String!, $password: String!) \x7b
  login(email: $email, password: $password) \x7b
    __typename
    ... on TokenPair \x7b
      accessToken
      refreshToken
      tokenType
    \x7d
    ... on LoginFailure \x7b
      problems \x7b
        __typename
        ... on WrongCredentialsProblem \x7b
          message
        \x7d
        ... on InvalidInputProblem \x7b
          message
          path
        \x7d
      \x7d
    \x7d
  \x7d
\x7d"

/-- Why a login gave no credentials. -/
inductive LoginError
  | request (error : RequestError)
  | rejected (problems : List Problem)
  | store (error : StoreError)

namespace LoginError

/-- The words for a failure. -/
def message : LoginError → String
  | request e => "login request failed: " ++ e.message
  | rejected problems => "login rejected: " ++ Problem.describe problems
  | store e => "storage error: " ++ e.message

/-- The words for the failures behind a failure, nearest first. -/
def sources : LoginError → List String
  | request e => e.message :: e.sources
  | rejected _ => []
  | store e => e.message :: e.sources

end LoginError

/-- The part of an answer's data that grants both credentials. -/
structure LoginData where
  result : MutationResult TokenPair

namespace LoginData

/-- Data that are being read. -/
structure Draft where
  result : Option (MutationResult TokenPair) := none

def fields : List (Json.Field Draft) :=
  [.of "login" false (·.result) (fun a _ => ⟨some a⟩) (MutationResult.read TokenPair.read)]

def Draft.finish (d : Draft) : Except Json.ReadError LoginData := do
  return ⟨← Json.required "login" d.result⟩

def read : Json.Reader LoginData := Json.readRecord "struct LoginData" fields {} Draft.finish

end LoginData

/-- The request that exchanges an email address and a password. -/
def loginRequest (email : String) (password : Secret) : GraphQL.Request :=
  { query := loginMutation
    variableValues := some (.object [("email", .string email), ("password", password.encode)]) }

variable {m : Type → Type} [Monad m]

/-- Logs in and writes both credentials. -/
def login (transport : Transport m) (destination : Url) (store : Store m) (log : Log m)
    (keys : CredentialKeys) (ttl : Span) (email : String) (password : Secret) :
    m (Except LoginError TokenPair) := do
  match ← GraphQL.sendAs transport destination (loginRequest email password) LoginData.read with
  | .error e => return .error (.request e)
  | .ok data =>
    match data.result.split with
    | .error problems => return .error (.rejected problems)
    | .ok pair =>
      match ← store.storePair keys pair ttl with
      | .error e => return .error (.store e)
      | .ok () =>
        log.info ("Logged in as " ++ email)
        return .ok pair

/-- Removes both credentials, and redirects once both are gone. The second removal does not wait for
the first to succeed. -/
def logout (store : Store m) (log : Log m) (keys : CredentialKeys) (redirect : m Unit) :
    m (Except StoreError Unit) := do
  let access ← store.remove keys.access
  let refresh ← store.remove keys.refresh
  match access, refresh with
  | .ok (), .ok () =>
    log.info "Cleared stored credentials"
    redirect
    return .ok ()
  | .error e, _ => do
    log.warn ("Failed to clear credentials: " ++ e.message)
    return .error e
  | .ok (), .error e => do
    log.warn ("Failed to clear credentials: " ++ e.message)
    return .error e

end BearerSession
