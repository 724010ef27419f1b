import BearerSession.Proofs.LoneSession

namespace BearerSession

open GraphQL (Request RequestError)

namespace Session

section Steps

variable {m : Type → Type} [Monad m]

def attempt (s : Session m) (r : Request) (kind : Attempt) :
    m (Except RequestError (Option Json.Value)) :=
  Auth.attempt s.transport s.log s.destination r s.hooks kind

/-- What an attempt does with the headers that it was given. -/
def sendWith (s : Session m) (r : Request) (kind : Attempt) (auth : Headers) :
    m (Except RequestError (Option Json.Value)) := do
  s.log.debug ("Sending " ++ kind.name ++ " attempt to " ++ s.destination.href ++
    " (authorized: " ++ (if auth.isEmpty then "false" else "true") ++ ")")
  return received (← s.transport.send s.destination (attemptMessage r auth))

/-- What a refresh does with the credential that it was granted. -/
def keepGrant (s : Session m) (token : Secret) (grant : AccessGrant) :
    m (Except RefreshError AccessGrant) := do
  match ← s.store.set s.keys.access grant.access s.ttl with
  | .error e => return .error (.store e)
  | .ok () =>
    match ← s.store.set s.keys.refresh token s.ttl with
    | .error e => return .error (.store e)
    | .ok () =>
      s.log.info "Refreshed access token"
      return .ok grant

variable [LawfulMonad m] (s : Session m)

theorem attempt_eq (r : Request) (kind : Attempt) :
    s.attempt r kind = (do
      match ← s.store.get s.keys.access with
      | .ok access => s.sendWith r kind (access.elim .empty bearer)
      | .error e =>
        s.log.warn ("Could not read access token, sending unauthenticated: " ++ e.message)
        s.sendWith r kind .empty) := by
  have hheaders : s.hooks.headers = s.authHeaders := rfl
  have hsend (auth : Headers) :
      (do
        s.log.debug ("Sending " ++ kind.name ++ " attempt to " ++ s.destination.href ++
          " (authorized: " ++ (if auth.isEmpty then "false" else "true") ++ ")")
        GraphQL.send s.transport s.destination { r with headers := r.headers.overlay auth }) =
        s.sendWith r kind auth := by
    simp only [graphql_send_eq, map_eq_pure_bind]
    rfl
  unfold attempt Auth.attempt
  simp only [hheaders, hsend]
  unfold authHeaders bearerHeaders
  simp only [bind_assoc, pure_bind]
  refine bind_congr fun read => ?_
  match read with
  | .error e => simp [Except.map]
  | .ok none => simp [Except.map]
  | .ok (some access) => simp [Except.map]

theorem refresh_eq :
    s.refresh = (do
      match ← s.store.get s.keys.refresh with
      | .error e => return .error (.store e)
      | .ok none => return .error .missingRefreshToken
      | .ok (some token) =>
        s.log.debug "Exchanging refresh token for a new access token"
        match granted (← s.transport.send s.destination (refreshRequest token).outgoing) with
        | .error e => return .error e
        | .ok grant => s.keepGrant token grant) := by
  have hexchange : requestAccessGrant s.transport s.destination =
      fun token => granted <$> s.transport.send s.destination (refreshRequest token).outgoing :=
    funext (requestAccessGrant_eq _ _)
  unfold refresh BearerSession.refresh
  simp only [hexchange, bind_map_left]
  rfl

end Steps

theorem recover_eq (destination : Url) (options : SessionOptions) (redirects : Bool) :
    let s := Script.session destination options redirects
    s.recover = (do
      let outcome ← (if options.singleFlight then Script.gate.run s.log s.refreshOutcome
        else s.refreshOutcome)
      return outcome.mapError fun e => e.message :: e.sources) := by
  intro s
  unfold Session.recover
  cases hs : options.singleFlight with
  | false => simp [s, Script.session, hs]
  | true => simp [s, Script.session, hs]

end Session

end BearerSession
