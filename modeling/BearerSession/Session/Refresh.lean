import BearerSession.GraphQL.Mutation
import BearerSession.GraphQL.Request
import BearerSession.Store.Basic

namespace BearerSession

open GraphQL (Problem MutationResult RequestError Transport)

/-- The mutation that exchanges a refresh credential. -/
def refreshMutation : String := "mutation RefreshToken($token: String!) \x7b
  refreshToken(token: $token) \x7b
    __typename
    ... on AccessToken \x7b
      accessToken
      tokenType
    \x7d
    ... on RefreshTokenFailure \x7b
      problems \x7b
        __typename
        ... on InvalidRefreshTokenProblem \x7b
          message
        \x7d
      \x7d
    \x7d
  \x7d
\x7d"

/-- Why a refresh gave no access credential. -/
inductive RefreshError
  | missingRefreshToken
  | request (error : RequestError)
  | rejected (problems : List Problem)
  | store (error : StoreError)

namespace RefreshError

/-- The words for a failure. -/
def message : RefreshError → String
  | missingRefreshToken => "no refresh token stored"
  | request e => "refresh request failed: " ++ e.message
  | rejected problems => "refresh rejected: " ++ Problem.describe problems
  | store e => "storage error: " ++ e.message

/-- The words for the failures behind a failure, nearest first. -/
def sources : RefreshError → List String
  | missingRefreshToken => []
  | request e => e.message :: e.sources
  | rejected _ => []
  | store e => e.message :: e.sources

end RefreshError

/-- The part of an answer's data that grants an access credential. -/
structure RefreshData where
  result : MutationResult AccessGrant

namespace RefreshData

/-- Data that are being read. -/
structure Draft where
  result : Option (MutationResult AccessGrant) := none

def fields : List (Json.Field Draft) :=
  [.of "refreshToken" false (·.result) (fun a _ => ⟨some a⟩) (MutationResult.read AccessGrant.read)]

def Draft.finish (d : Draft) : Except Json.ReadError RefreshData := do
  return ⟨← Json.required "refreshToken" d.result⟩

def read : Json.Reader RefreshData :=
  Json.readRecord "struct RefreshTokenData" fields {} Draft.finish

end RefreshData

/-- The request that exchanges a refresh credential. It carries no credential in its headers. -/
def refreshRequest (token : Secret) : GraphQL.Request :=
  { query := refreshMutation, variableValues := some (.object [("token", token.encode)]) }

variable {m : Type → Type} [Monad m]

/-- Sends a refresh credential to be exchanged. -/
def requestAccessGrant (transport : Transport m) (destination : Url) (token : Secret) :
    m (Except RefreshError AccessGrant) := do
  match ← GraphQL.sendAs transport destination (refreshRequest token) RefreshData.read with
  | .error e => return .error (.request e)
  | .ok data =>
    match data.result.split with
    | .error problems => return .error (.rejected problems)
    | .ok grant => return .ok grant

/-- Exchanges the stored refresh credential, and writes the new access credential and then the
refresh credential again, so that both live for the whole span from now. -/
def refresh (exchange : Secret → m (Except RefreshError AccessGrant)) (store : Store m)
    (log : Log m) (keys : CredentialKeys) (ttl : Span) : m (Except RefreshError AccessGrant) := do
  match ← store.get keys.refresh with
  | .error e => return .error (.store e)
  | .ok none => return .error .missingRefreshToken
  | .ok (some token) =>
    log.debug "Exchanging refresh token for a new access token"
    match ← exchange token with
    | .error e => return .error e
    | .ok grant =>
      match ← store.set keys.access grant.access ttl with
      | .error e => return .error (.store e)
      | .ok () =>
        match ← store.set keys.refresh token ttl with
        | .error e => return .error (.store e)
        | .ok () =>
          log.info "Refreshed access token"
          return .ok grant

end BearerSession
