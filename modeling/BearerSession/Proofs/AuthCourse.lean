import BearerSession.Proofs.LoneSession
import BearerSession.Proofs.StepRecord

namespace BearerSession

open GraphQL (AuthFailure ClassifiedError Envelope Outgoing ReportedError Request RequestError
  Transport TransportError)

/-- A step of an authenticated request, with its outcome. -/
inductive AuthStep
  | headers (auth : Headers)
  | sent (destination : Url) (message : Outgoing) (answer : Except TransportError Envelope)
  | recovered (outcome : Except Failure Unit)
  | invalidated

section Recording

variable {m : Type → Type} [Monad m] {α : Type}

/-- Records a step once it is done. -/
def recorded (step : α → AuthStep) (x : m α) : StateT (List AuthStep) m α := fun steps => do
  let a ← x
  return (a, steps ++ [step a])

/-- A transport that records what it sends. -/
def GraphQL.Transport.recorded (transport : Transport m) : Transport (StateT (List AuthStep) m) :=
  ⟨fun destination message =>
    BearerSession.recorded (.sent destination message) (transport.send destination message)⟩

/-- A log among surroundings that record steps. -/
def Log.unrecorded (log : Log m) : Log (StateT (List AuthStep) m) :=
  ⟨fun line => StateT.lift (log.write line)⟩

namespace AuthHooks

/-- Hooks that record their calls. A hook that is absent stays so. -/
def recorded (hooks : AuthHooks m) : AuthHooks (StateT (List AuthStep) m) where
  authHeader := hooks.authHeader.map (BearerSession.recorded .headers)
  unauthorized := hooks.unauthorized.map (BearerSession.recorded .recovered)
  invalidTokens := hooks.invalidTokens.map (BearerSession.recorded fun _ => .invalidated)

/-- Whether a step is taken, other than by default. -/
def takes (hooks : AuthHooks m) : AuthStep → Bool
  | .headers _ => hooks.authHeader.isSome
  | .sent _ _ _ => true
  | .recovered _ => hooks.unauthorized.isSome
  | .invalidated => hooks.invalidTokens.isSome

end AuthHooks

end Recording

/-- An attempt: its headers, which are none where no hook supplies them, and the answer to it. -/
structure Trial {m : Type → Type} (hooks : AuthHooks m) where
  auth : Headers
  answer : Except TransportError Envelope
  bare : hooks.authHeader = none → auth = .empty

/-- How a request may go: one attempt that is not refused, or one that is, a recovery and another
attempt. -/
inductive Course {m : Type → Type} (hooks : AuthHooks m)
  | once (first : Trial hooks) (accepted : isRefused first.answer = false)
  | twice (first : Trial hooks) (refused : isRefused first.answer = true)
      (recovery : Except Failure Unit) (idle : hooks.unauthorized = none → recovery = .ok ())
      (second : Trial hooks)

section Course

variable {m : Type → Type} {hooks : AuthHooks m}

def Trial.steps (destination : Url) (r : Request) (t : Trial hooks) : List AuthStep :=
  [.headers t.auth, .sent destination (attemptMessage r t.auth) t.answer]

/-- The steps of a recovery: the hook that recovers, and if that fails the one that is told. -/
def recoverySteps : Except Failure Unit → List AuthStep
  | .ok () => [.recovered (.ok ())]
  | .error e => [.recovered (.error e), .invalidated]

namespace Course

def steps (destination : Url) (r : Request) : Course hooks → List AuthStep
  | once first _ => first.steps destination r
  | twice first _ recovery _ second =>
    first.steps destination r ++ recoverySteps recovery ++ second.steps destination r

def answer : Course hooks → Except TransportError Envelope
  | once first _ => first.answer
  | twice _ _ _ _ second => second.answer

/-- Whatever is sent goes to the destination as the request's method and body. -/
theorem sent_of_mem {destination destination' : Url} {r : Request} {course : Course hooks}
    {message : Outgoing} {answer : Except TransportError Envelope}
    (hm : .sent destination' message answer ∈ course.steps destination r) :
    destination' = destination ∧ message.method = "POST" ∧ message.body = r.body.text := by
  have htrial : ∀ t : Trial hooks, .sent destination' message answer ∈ t.steps destination r →
      destination' = destination ∧ message.method = "POST" ∧ message.body = r.body.text := by
    intro t ht
    simp only [Trial.steps, List.mem_cons, reduceCtorEq, AuthStep.sent.injEq, List.not_mem_nil,
      or_false, false_or] at ht
    obtain ⟨rfl, rfl, -⟩ := ht
    exact ⟨rfl, rfl, rfl⟩
  cases course with
  | once first _ => exact htrial first hm
  | twice first _ recovery _ second =>
    have hrecovery : .sent destination' message answer ∉ recoverySteps recovery := by
      cases recovery <;> simp [recoverySteps]
    simp only [steps, List.mem_append, hrecovery, or_false] at hm
    exact hm.elim (htrial first) (htrial second)

end Course

end Course

section Classification

/-- The messages that report a failure for want of credentials. -/
def IsSentinel (message : String) : Prop :=
  message = "Authentication token required" ∨ message = "Invalid token"

theorem ofMessage?_isSome_iff (message : String) :
    (AuthFailure.ofMessage? message).isSome ↔ IsSentinel message := by
  unfold AuthFailure.ofMessage? IsSentinel
  split
  next h => simpa using .inl h
  next h =>
    have hne : message ≠ "Authentication token required" := h
    split
    next h' => simpa using .inr h'
    next h' =>
      have hne' : message ≠ "Invalid token" := h'
      simp [hne, hne']

/-- Only classified failures with one of the two messages, at any place, are for want of
credentials. -/
theorem authFailure?_isSome_iff (failure : RequestError) :
    failure.authFailure?.isSome ↔
      ∃ c, failure = .classified c ∧ ∃ error ∈ c.errors, IsSentinel error.message := by
  cases failure with
  | transport e => simp [RequestError.authFailure?]
  | payload e => simp [RequestError.authFailure?]
  | classified c =>
    have hsome : (RequestError.classified c).authFailure?.isSome ↔
        ∃ error ∈ c.errors, IsSentinel error.message := by
      unfold RequestError.authFailure? ClassifiedError.authFailure?
      rw [List.findSome?_isSome_iff]
      constructor
      · rintro ⟨message, hmessage, h⟩
        obtain ⟨error, hmem, rfl⟩ := List.mem_map.mp hmessage
        exact ⟨error, hmem, (ofMessage?_isSome_iff _).mp h⟩
      · rintro ⟨error, hmem, h⟩
        exact ⟨_, List.mem_map_of_mem hmem, (ofMessage?_isSome_iff _).mpr h⟩
    rw [hsome]
    constructor
    · exact fun h => ⟨c, rfl, h⟩
    · rintro ⟨c', heq, h⟩
      cases heq
      exact h

theorem received_eq_classified_iff (answer : Except TransportError Envelope) (c : ClassifiedError) :
    received answer = .error (.classified c) ↔
      ∃ envelope, answer = .ok envelope ∧ envelope.errors = some c.errors ∧ c.errors ≠ [] := by
  cases answer with
  | error e => simp [received]
  | ok envelope =>
    obtain ⟨data, errors⟩ := envelope
    obtain ⟨es⟩ := c
    rcases errors with _ | _ | ⟨error, errors⟩
    · simp [received, Envelope.split]
    · simp [received, Envelope.split]
    · have hreceived : received (.ok ⟨data, some (error :: errors)⟩) =
          .error (.classified ⟨error :: errors⟩) := rfl
      rw [hreceived]
      constructor
      · intro h
        cases h
        exact ⟨_, rfl, rfl, List.cons_ne_nil error errors⟩
      · rintro ⟨envelope, heq, herrors, -⟩
        cases heq
        rw [Option.some.inj herrors]

theorem isRefused_iff (answer : Except TransportError Envelope) :
    isRefused answer = true ↔ ∃ envelope errors, answer = .ok envelope ∧
      envelope.errors = some errors ∧ ∃ error ∈ errors, IsSentinel error.message := by
  have hfailure : isRefused answer = true ↔
      ∃ failure, received answer = .error failure ∧ failure.authFailure?.isSome := by
    unfold isRefused
    cases received answer <;> simp
  rw [hfailure]
  constructor
  · rintro ⟨failure, hreceived, hauth⟩
    obtain ⟨c, rfl, hsentinel⟩ := (authFailure?_isSome_iff _).mp hauth
    obtain ⟨envelope, hanswer, herrors, -⟩ := (received_eq_classified_iff _ _).mp hreceived
    exact ⟨envelope, c.errors, hanswer, herrors, hsentinel⟩
  · rintro ⟨envelope, errors, hanswer, herrors, error, hmem, hsentinel⟩
    refine ⟨.classified ⟨errors⟩, (received_eq_classified_iff _ _).mpr
      ⟨envelope, hanswer, herrors, List.ne_nil_of_mem hmem⟩, ?_⟩
    exact (authFailure?_isSome_iff _).mpr ⟨⟨errors⟩, rfl, error, hmem, hsentinel⟩

end Classification

section Runs

variable {σ α : Type}

theorem records_step (x : StateM σ α) (kind : α → AuthStep) (s : σ) :
    ∃ a s', Records x (recorded kind x) s [kind a] a s' := Records.step x kind s

variable (transport : Transport (StateM σ)) (log : Log (StateM σ)) (hooks : AuthHooks (StateM σ))
  (destination : Url) (r : Request)

theorem records_log (line : LogLine) (s : σ) :
    ∃ s', Records (log.write line) (log.unrecorded.write line) s [] () s' :=
  ⟨((log.write line).run s).2, rfl, fun before => by rw [List.append_nil]; rfl⟩

theorem records_headers (s : σ) : ∃ auth s', (hooks.authHeader = none → auth = .empty) ∧
    Records hooks.headers hooks.recorded.headers s ([.headers auth].filter hooks.takes) auth
      s' := by
  obtain ⟨authHeader, unauthorized, invalidTokens⟩ := hooks
  cases authHeader with
  | none => exact ⟨.empty, s, fun _ => rfl, .pure _ s⟩
  | some x =>
    obtain ⟨auth, s', h⟩ := records_step x .headers s
    exact ⟨auth, s', nofun, h⟩

theorem records_recover (s : σ) : ∃ outcome s', (hooks.unauthorized = none → outcome = .ok ()) ∧
    Records hooks.recover hooks.recorded.recover s ([.recovered outcome].filter hooks.takes)
      outcome s' := by
  obtain ⟨authHeader, unauthorized, invalidTokens⟩ := hooks
  cases unauthorized with
  | none => exact ⟨.ok (), s, fun _ => rfl, .pure _ s⟩
  | some x =>
    obtain ⟨outcome, s', h⟩ := records_step x .recovered s
    exact ⟨outcome, s', nofun, h⟩

theorem records_invalidate (s : σ) : ∃ s',
    Records hooks.invalidate hooks.recorded.invalidate s ([.invalidated].filter hooks.takes) ()
      s' := by
  obtain ⟨authHeader, unauthorized, invalidTokens⟩ := hooks
  cases invalidTokens with
  | none => exact ⟨s, .pure _ s⟩
  | some x =>
    obtain ⟨⟨⟩, s', h⟩ := records_step x (fun _ => .invalidated) s
    exact ⟨s', h⟩

theorem records_attempt (kind : Attempt) (s : σ) : ∃ (t : Trial hooks) (s' : σ),
    Records (Auth.attempt transport log destination r hooks kind)
      (Auth.attempt transport.recorded log.unrecorded destination r hooks.recorded kind) s
      ((t.steps destination r).filter hooks.takes) (received t.answer) s' := by
  obtain ⟨auth, s₁, bare, hheaders⟩ := records_headers hooks s
  obtain ⟨s₂, hlog⟩ := records_log log ⟨.debug, "Sending " ++ kind.name ++ " attempt to " ++
    destination.href ++ " (authorized: " ++ (if auth.isEmpty then "false" else "true") ++ ")"⟩ s₁
  obtain ⟨answer, s₃, hsend⟩ := records_step (transport.send destination (attemptMessage r auth))
    (.sent destination (attemptMessage r auth)) s₂
  refine ⟨⟨auth, answer, bare⟩, s₃, ?_⟩
  have hsteps : (Trial.steps destination r ⟨auth, answer, bare⟩).filter hooks.takes =
      [.headers auth].filter hooks.takes ++
        ([] ++ ([.sent destination (attemptMessage r auth) answer] ++ [])) := by
    rw [Trial.steps, ← List.singleton_append, List.filter_append]
    rfl
  unfold Auth.attempt
  simp only [graphql_send_eq, map_eq_pure_bind, hsteps]
  exact hheaders.bind (hlog.bind (hsend.bind (.pure _ _)))

theorem records_recovery {β : Type} {next : StateM σ β}
    {next' : StateT (List AuthStep) (StateM σ) β} (s : σ) :
    ∃ outcome s', (hooks.unauthorized = none → outcome = .ok ()) ∧
      ∀ {steps b s''}, Records next next' s' steps b s'' →
        Records
          (do
            match ← hooks.recover with
            | .ok () => pure ()
            | .error e =>
              log.warn ("Credential recovery failed: " ++ e.line)
              hooks.invalidate
            next)
          (do
            match ← hooks.recorded.recover with
            | .ok () => pure ()
            | .error e =>
              log.unrecorded.warn ("Credential recovery failed: " ++ e.line)
              hooks.recorded.invalidate
            next')
          s ((recoverySteps outcome).filter hooks.takes ++ steps) b s'' := by
  obtain ⟨outcome, s₁, idle, hrecover⟩ := records_recover hooks s
  cases outcome with
  | ok =>
    refine ⟨.ok (), s₁, idle, fun hnext => hrecover.bind ?_⟩
    exact hnext
  | error e =>
    obtain ⟨s₂, hlog⟩ := records_log log ⟨.warn, "Credential recovery failed: " ++ e.line⟩ s₁
    obtain ⟨s₃, hinvalidate⟩ := records_invalidate hooks s₂
    refine ⟨.error e, s₃, idle, fun hnext => ?_⟩
    rw [recoverySteps, ← List.singleton_append, List.filter_append, List.append_assoc]
    refine hrecover.bind (hlog.bind ?_)
    exact hinvalidate.bind hnext

/-- A request takes the steps of a course and comes to what the last answer says. -/
theorem records_send (s : σ) : ∃ (course : Course hooks) (s' : σ),
    Records (Auth.send transport log destination r hooks)
      (Auth.send transport.recorded log.unrecorded destination r hooks.recorded) s
      ((course.steps destination r).filter hooks.takes) (received course.answer) s' := by
  obtain ⟨first, s₁, hfirst⟩ := records_attempt transport log hooks destination r .primary s
  unfold Auth.send
  cases hreceived : received first.answer with
  | ok data =>
    refine ⟨.once first (by simp [isRefused, hreceived]), s₁, ?_⟩
    rw [hreceived] at hfirst
    rw [Course.steps, Course.answer, hreceived, ← List.append_nil (List.filter _ _)]
    exact hfirst.bind (.pure _ _)
  | error failure =>
    rw [hreceived] at hfirst
    cases hreason : failure.authFailure? with
    | none =>
      refine ⟨.once first (by simp [isRefused, hreceived, hreason]), s₁, ?_⟩
      rw [Course.steps, Course.answer, hreceived, ← List.append_nil (List.filter _ _)]
      refine hfirst.bind ?_
      simp only [hreason]
      exact .pure _ _
    | some reason =>
      obtain ⟨s₂, hlog⟩ := records_log log ⟨.warn, "Request to " ++ destination.href ++
        " rejected (" ++ reason.message ++ "), recovering credentials"⟩ s₁
      obtain ⟨recovery, s₃, idle, hrecovery⟩ := records_recovery log hooks s₂
      obtain ⟨second, s₄, hsecond⟩ := records_attempt transport log hooks destination r .retry s₃
      refine ⟨.twice first (by simp [isRefused, hreceived, hreason]) recovery idle second, s₄, ?_⟩
      rw [Course.steps, Course.answer, List.filter_append, List.filter_append, List.append_assoc]
      refine hfirst.bind ?_
      simp only [hreason]
      exact hlog.bind (hrecovery hsecond)

end Runs

/-- Whatever transport and hooks do, a request takes the steps of a course, of which the defaults of
absent hooks leave no record, and comes to what the answer to its last attempt says. An answer
starts a recovery exactly if one of its errors has one of the two messages; a classified failure
carries all errors of its answer; and both attempts send the same, headers aside. -/
theorem send_takes_course {σ : Type} (transport : Transport (StateM σ)) (log : Log (StateM σ))
    (hooks : AuthHooks (StateM σ)) (destination : Url) (r : Request) (s : σ) :
    (∃ (course : Course hooks) (s' : σ),
      (Auth.send transport log destination r hooks).run s = (received course.answer, s') ∧
      ((Auth.send transport.recorded log.unrecorded destination r hooks.recorded).run []).run s =
        ((received course.answer, (course.steps destination r).filter hooks.takes), s') ∧
      ∀ destination' message answer,
        .sent destination' message answer ∈ course.steps destination r →
        destination' = destination ∧ message.method = "POST" ∧ message.body = r.body.text) ∧
    (∀ answer, isRefused answer = true ↔ ∃ envelope errors, answer = .ok envelope ∧
      envelope.errors = some errors ∧ ∃ error ∈ errors, IsSentinel error.message) ∧
    (∀ failure : RequestError, failure.authFailure?.isSome ↔
      ∃ c, failure = .classified c ∧ ∃ error ∈ c.errors, IsSentinel error.message) ∧
    ∀ answer c, received answer = .error (.classified c) →
      ∃ envelope, answer = .ok envelope ∧ envelope.errors = some c.errors := by
  refine ⟨?_, isRefused_iff, authFailure?_isSome_iff, fun answer c hc => ?_⟩
  · obtain ⟨course, s', h⟩ := records_send transport log hooks destination r s
    exact ⟨course, s', h.plain, h.recording [], fun _ _ _ hm => Course.sent_of_mem hm⟩
  · obtain ⟨envelope, hanswer, herrors, -⟩ := (received_eq_classified_iff answer c).mp hc
    exact ⟨envelope, hanswer, herrors⟩

end BearerSession
