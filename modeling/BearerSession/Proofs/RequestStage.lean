import BearerSession.Proofs.RequestInvariant

namespace BearerSession

open GraphQL (Request)

/-- The headers for the access credential that was read, if there is one. -/
def headersOf : Option Secret → Headers
  | some access => bearer access
  | none => .empty

namespace Crowd

variable (c : Crowd)

def attempt (r : Request) (kind : Attempt) : Script Response :=
  Auth.attempt Script.transport Script.log c.destination r c.session.hooks kind

/-- What follows a recovery. -/
def resumed (r : Request) (recovery : Except Failure Unit) : Script Response := do
  match recovery with
  | .ok () => pure ()
  | .error e =>
    Script.log.warn ("Credential recovery failed: " ++ e.line)
    c.session.invalidate
  c.attempt r .retry

/-- What follows the outcome of a refresh. -/
def settled (r : Request) (outcome : RefreshOutcome) : Script Response :=
  c.resumed r (outcome.mapError fun e => e.message :: e.sources)

/-- What follows the first attempt. -/
def answered (r : Request) : Response → Script Response
  | .ok data => pure (.ok data)
  | .error failure =>
    match failure.authFailure? with
    | none => pure (.error failure)
    | some reason => do
      Script.log.write (rejection c.destination reason)
      c.resumed r (← c.session.recover)

theorem request_eq (r : Request) :
    c.session.request r = c.attempt r .primary >>= c.answered r := rfl

/-- What follows a refresh of one's own: with a gate, the outcome is recorded and the gate handed
over. -/
def concluding (r : Request) (outcome : RefreshOutcome) : Script Response :=
  if c.options.singleFlight then
    Program.ask (.settle outcome) fun _ => Program.ask .release fun _ => c.settled r outcome
  else c.settled r outcome

/-- A refresh and what follows it. -/
def refreshing (r : Request) : Script Response :=
  c.session.refresh >>= fun x => c.concluding r (x.map fun _ => ())

/-- What follows the taking of the gate. -/
def entering (r : Request) (ticket : Nat) : Script Response :=
  Program.ask .completed fun completed => Program.ask .last fun last =>
    match if ticket < completed then last else none with
    | some outcome =>
      Program.ask (.log ⟨.debug, "Reusing outcome of concurrent refresh"⟩) fun _ =>
        Program.ask .release fun _ => c.settled r outcome
    | none => c.refreshing r

/-- What a refresh does when its exchange was answered. -/
def storing (granted : Except RefreshError AccessGrant) :
    Script (Except RefreshError AccessGrant) := do
  match granted with
  | .error e => return .error e
  | .ok grant =>
    match ← Script.store.set c.options.keys.access grant.access c.options.ttl with
    | .error e => return .error (.store e)
    | .ok () =>
      match ← Script.store.set c.options.keys.refresh c.token c.options.ttl with
      | .error e => return .error (.store e)
      | .ok () =>
        Script.log.info "Refreshed access token"
        return .ok grant

/-- What follows the answer to the exchange of the refresh credential. -/
def exchanged (r : Request) (granted : Except RefreshError AccessGrant) : Script Response :=
  c.storing granted >>= fun x => c.concluding r (x.map fun _ => ())

/-- An attempt reads the access credential and sends its message. -/
theorem attempt_eq (r : Request) (kind : Attempt) :
    ∃ next, c.attempt r kind = Program.ask (.get c.options.keys.access) next ∧
      ∀ x, ∃ line, next (.ok x) = Program.ask (.log line) fun _ =>
        Program.ask (.send c.destination (attemptMessage r (headersOf x))) fun answer =>
          Program.done (received answer) := by
  simp only [attempt, Auth.attempt, graphql_send_eq]
  refine ⟨_, rfl, ?_⟩
  intro x
  cases x with
  | none => exact ⟨_, rfl⟩
  | some access => exact ⟨_, rfl⟩

/-- A refresh reads the refresh credential, sends it to be exchanged and stores the grant. -/
theorem refresh_eq :
    ∃ next, c.session.refresh = Program.ask (.get c.options.keys.refresh) next ∧
      next (.ok (some c.token)) =
        Program.ask (.log ⟨.debug, "Exchanging refresh token for a new access token"⟩) fun _ =>
          Program.ask (.send c.destination (refreshRequest c.token).outgoing) fun answer =>
            c.storing (granted answer) := by
  have hexchange : requestAccessGrant c.session.transport c.session.destination =
      fun token => granted <$> c.session.transport.send c.session.destination
        (refreshRequest token).outgoing := funext (requestAccessGrant_eq _ _)
  unfold Session.refresh
  rw [hexchange]
  exact ⟨_, rfl, rfl⟩

theorem recover_eq (r : Request) :
    (c.session.recover >>= c.resumed r) =
      if c.options.singleFlight then
        Program.ask .completed fun ticket => Program.ask .acquire fun _ => c.entering r ticket
      else c.refreshing r := by
  cases hs : c.options.singleFlight with
  | false =>
    have hgate : c.session.gate = none := by simp [session, Script.session, hs]
    have hnext : ∀ outcome, c.concluding r outcome = c.settled r outcome :=
      fun outcome => by simp [concluding, hs]
    unfold Session.recover refreshing
    rw [hgate]
    simp only [Session.refreshOutcome, bind_assoc, pure_bind, hnext]
    rfl
  | true =>
    have hgate : c.session.gate = some Script.gate := by simp [session, Script.session, hs]
    have hnext : ∀ outcome, c.concluding r outcome = Program.ask (.settle outcome) fun _ =>
        Program.ask .release fun _ => c.settled r outcome :=
      fun outcome => by simp [concluding, hs]
    unfold Session.recover Gate.run
    rw [hgate]
    simp only [Session.refreshOutcome, bind_assoc, pure_bind]
    refine congrArg (Program.ask Call.completed) (funext fun ticket => ?_)
    refine congrArg (Program.ask Call.acquire) (funext fun _ => ?_)
    refine congrArg (Program.ask Call.completed) (funext fun completed => ?_)
    refine congrArg (Program.ask Call.last) (funext fun last => ?_)
    dsimp only [Program.bind]
    cases (if ticket < completed then last else none) with
    | some outcome => rfl
    | none =>
      simp only [refreshing, bind_assoc, pure_bind, hnext]
      rfl

end Crowd

end BearerSession
