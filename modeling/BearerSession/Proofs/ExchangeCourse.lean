import BearerSession.Proofs.MutationMessage
import BearerSession.Proofs.PayloadReading

namespace BearerSession

open GraphQL (Envelope MutationResult Outgoing Problem ReportedError RequestError TransportError)
open GraphQL.Problem (Reports)
open Json (Value Reader)
open Json.Node (ofValue)
open SortedMap (find?)

section Exchanges

variable {α δ ε : Type}

/-- What an exchange comes to by the answer to it, if its data are read in one way. -/
inductive ExchangeEnds (read : Reader δ) (result : δ → MutationResult α)
    (request : RequestError → ε) (rejected : List Problem → ε) :
    Except TransportError Envelope → Except ε α → Prop
  | unanswered {e : TransportError} :
      ExchangeEnds read result request rejected (.error e) (.error (request (.transport e)))
  | faulty {data : Option Value} {errors : List ReportedError} (listed : errors ≠ []) :
      ExchangeEnds read result request rejected (.ok ⟨data, some errors⟩)
        (.error (request (.classified ⟨errors⟩)))
  | unreadable {data : Option Value} {errors : Option (List ReportedError)} {e : Json.ReadError}
      (sound : errors.getD [] = []) (unread : Json.readMemory read (data.getD .null) = .error e) :
      ExchangeEnds read result request rejected (.ok ⟨data, errors⟩) (.error (request (.payload e)))
  | refused {data : Option Value} {errors : Option (List ReportedError)} {d : δ}
      {problems : List Problem} (sound : errors.getD [] = [])
      (given : Json.readMemory read (data.getD .null) = .ok d)
      (failure : result d = .failure problems) :
      ExchangeEnds read result request rejected (.ok ⟨data, errors⟩) (.error (rejected problems))
  | granted {data : Option Value} {errors : Option (List ReportedError)} {d : δ} {a : α}
      (sound : errors.getD [] = [])
      (given : Json.readMemory read (data.getD .null) = .ok d) (success : result d = .success a) :
      ExchangeEnds read result request rejected (.ok ⟨data, errors⟩) (.ok a)

variable {read : Reader δ} {result : δ → MutationResult α} {request : RequestError → ε}
  {rejected : List Problem → ε}

/-- What reading the data of an answer as a result makes of an exchange. -/
def exchanged (read : Reader δ) (result : δ → MutationResult α) (request : RequestError → ε)
    (rejected : List Problem → ε) (answer : Except TransportError Envelope) : Except ε α :=
  match (received answer).bind (GraphQL.decode read) with
  | .error e => .error (request e)
  | .ok d => (result d).split.mapError rejected

theorem granted_eq_exchanged (answer : Except TransportError Envelope) :
    granted answer = exchanged RefreshData.read RefreshData.result .request .rejected answer := by
  unfold granted exchanged
  cases (received answer).bind (GraphQL.decode RefreshData.read) with
  | error e => rfl
  | ok d =>
    dsimp only
    cases d.result.split <;> rfl

theorem loginGrant_eq_exchanged (answer : Except TransportError Envelope) :
    loginGrant answer = exchanged LoginData.read LoginData.result .request .rejected answer := by
  unfold loginGrant exchanged
  cases (received answer).bind (GraphQL.decode LoginData.read) with
  | error e => rfl
  | ok d =>
    dsimp only
    cases d.result.split <;> rfl

theorem exchangeEnds_exchanged (answer : Except TransportError Envelope) :
    ExchangeEnds read result request rejected answer
      (exchanged read result request rejected answer) := by
  have hsound (data : Option Value) {errors : Option (List ReportedError)}
      (sound : errors.getD [] = []) : ExchangeEnds read result request rejected (.ok ⟨data, errors⟩)
        (match GraphQL.decode read data with
          | .error e => .error (request e)
          | .ok d => (result d).split.mapError rejected) := by
    unfold GraphQL.decode
    cases hread : Json.readMemory read (data.getD .null) with
    | error e => exact .unreadable sound hread
    | ok d =>
      cases hresult : result d with
      | failure problems => simpa only [hresult] using .refused sound hread hresult
      | success a => simpa only [hresult] using .granted sound hread hresult
  rcases answer with e | ⟨data, errors⟩
  · exact .unanswered
  · rcases errors with _ | _ | ⟨error, errors⟩
    · exact hsound data rfl
    · exact hsound data rfl
    · exact .faulty (List.cons_ne_nil error errors)

theorem split_isOk {envelope : Envelope} (sound : envelope.errors.getD [] = []) :
    envelope.split.isOk = true := by
  obtain ⟨data, errors⟩ := envelope
  rcases errors with _ | _ | ⟨error, errors⟩
  · rfl
  · rfl
  · cases sound

/-- Listed problems are a rejection, in their order. -/
theorem exchanged_listed {entries : List (String × Value)} {vs : List Value}
    {problems : List Problem} {envelope : Envelope} {data : Value} {a? : Option α}
    {wrap : MutationResult α → δ} (sound : envelope.errors.getD [] = [])
    (given : envelope.data = some data)
    (carried : (read .memory (ofValue data)).toOption =
      (MutationResult.ofFields? a? entries).map wrap)
    (unwrap : ∀ r, result (wrap r) = r) (listed : find? "problems" entries = some (.array vs))
    (reports : List.Forall₂ Reports vs problems) :
    exchanged read result request rejected (.ok envelope) = .error (rejected problems) := by
  have hdata : (received (.ok envelope)).bind (GraphQL.decode read) =
      .ok (wrap (.failure problems)) := by
    rw [← Json.toOption_eq_some_iff, decode_received _ given, if_pos (split_isOk sound), carried,
      MutationResult.ofFields?_listed listed reports]
    rfl
  rw [exchanged, hdata]
  simp only [unwrap]
  rfl

end Exchanges

/-- Whether steps go by a plan up to the first that fails, and come to the payload or to why it
failed. -/
inductive GoesBy {ε α : Type} (plan : List Call) (failure? : CallStep → Option ε) (payload : α) :
    List CallStep → Except ε α → Prop
  | finished {steps : List CallStep} (made : steps.map CallStep.call = plan)
      (fine : ∀ step ∈ steps, failure? step = none) : GoesBy plan failure? payload steps (.ok payload)
  | stopped {steps : List CallStep} {last : CallStep} {e : ε}
      (made : (steps ++ [last]).map CallStep.call <+: plan)
      (fine : ∀ step ∈ steps, failure? step = none) (failed : failure? last = some e) :
      GoesBy plan failure? payload (steps ++ [last]) (.error e)

def Call.isSend : Call → Bool
  | .send _ _ => true
  | _ => false

/-- Whether a call may change the store. -/
def Call.isWrite : Call → Bool
  | .set _ _ _ => true
  | .remove _ => true
  | _ => false

/-- Whether steps send at most one message, to one destination and without authorization, and change
the store only if it was answered with a grant. -/
structure Cautious {ε α : Type} (destination : Url)
    (grant : Except TransportError Envelope → Except ε α) (steps : List CallStep) : Prop where
  once : (steps.filter (·.call.isSend)).length ≤ 1
  bare : ∀ {destination' : Url} {message : Outgoing} {answer : Except TransportError Envelope},
    ⟨.send destination' message, answer⟩ ∈ steps →
      destination' = destination ∧ message.headers.named authorization = []
  earned : ∀ step ∈ steps, step.call.isWrite = true → ∃ message answer a,
    ⟨.send destination message, answer⟩ ∈ steps ∧ grant answer = .ok a

namespace GoesBy

variable {ε α : Type} {plan : List Call} {failure? : CallStep → Option ε} {payload : α}
  {steps : List CallStep} {call : Call} {answer : call.Answer} {result : Except ε α} {e : ε}

theorem nil : GoesBy [] failure? payload [] (.ok payload) :=
  .finished rfl (List.forall_mem_nil _)

theorem stop (failed : failure? ⟨call, answer⟩ = some e) :
    GoesBy (call :: plan) failure? payload [⟨call, answer⟩] (.error e) := by
  have hmade : ([] ++ [CallStep.mk call answer]).map CallStep.call <+: call :: plan := ⟨plan, rfl⟩
  exact .stopped hmade (List.forall_mem_nil _) failed

theorem cons (fine : failure? ⟨call, answer⟩ = none)
    (h : GoesBy plan failure? payload steps result) :
    GoesBy (call :: plan) failure? payload (⟨call, answer⟩ :: steps) result := by
  cases h with
  | finished made rest =>
    exact .finished (congrArg _ made) (List.forall_mem_cons.mpr ⟨fine, rest⟩)
  | @stopped steps last e made rest failed =>
    have hmade : (⟨call, answer⟩ :: steps ++ [last]).map CallStep.call <+: call :: plan :=
      List.cons_prefix_cons.mpr ⟨rfl, made⟩
    exact .stopped hmade (List.forall_mem_cons.mpr ⟨fine, rest⟩) failed

theorem isPrefix (h : GoesBy plan failure? payload steps result) :
    steps.map CallStep.call <+: plan := by
  cases h with
  | finished made => exact made ▸ List.prefix_refl _
  | stopped made => exact made

/-- Whoever goes by a plan sends what the plan has. -/
theorem cautious {grant : Except TransportError Envelope → Except ε α} {destination : Url}
    (h : GoesBy plan failure? payload steps result)
    (once : (plan.filter Call.isSend).length ≤ 1)
    (bare : ∀ destination' message, .send destination' message ∈ plan →
      destination' = destination ∧ message.headers.named authorization = [])
    (earned : ∀ step ∈ steps, step.call.isWrite = true → ∃ message answer a,
      ⟨.send destination message, answer⟩ ∈ steps ∧ grant answer = .ok a) :
    Cautious destination grant steps := by
  have hmade := h.isPrefix
  refine ⟨?_, ?_, earned⟩
  · calc (steps.filter (·.call.isSend)).length
        = ((steps.map CallStep.call).filter Call.isSend).length := by
          rw [List.filter_map, List.length_map]; rfl
      _ ≤ (plan.filter Call.isSend).length := (hmade.filter Call.isSend).length_le
      _ ≤ 1 := once
  · intro destination' message answer hmem
    exact bare destination' message (hmade.subset (List.mem_map_of_mem hmem))

end GoesBy

/-- Why a step of a refresh failed, if it did. -/
def RefreshError.ofStep? : CallStep → Option RefreshError
  | ⟨.get _, .error e⟩ => some (.store e)
  | ⟨.get _, .ok none⟩ => some .missingRefreshToken
  | ⟨.send _ _, answer⟩ =>
    match granted answer with
    | .error e => some e
    | .ok _ => none
  | ⟨.set _ _ _, .error e⟩ => some (.store e)
  | _ => none

/-- Why a step of a login failed, if it did. -/
def LoginError.ofStep? : CallStep → Option LoginError
  | ⟨.send _ _, answer⟩ =>
    match loginGrant answer with
    | .error e => some e
    | .ok _ => none
  | ⟨.set _ _ _, .error e⟩ => some (.store e)
  | _ => none

namespace Session

section Courses

variable {m : Type → Type} (s : Session m)

/-- The calls of a refresh that goes to its end, with the message of its exchange. -/
def refreshCalls (token : Secret) (message : Outgoing) (grant : AccessGrant) : List Call :=
  [.get s.keys.refresh, .send s.destination message,
    .set s.keys.access grant.access s.ttl, .set s.keys.refresh token s.ttl]

/-- The calls of a login that goes to its end, with its message. -/
def loginCalls (message : Outgoing) (pair : TokenPair) : List Call :=
  [.send s.destination message,
    .set s.keys.access pair.access s.ttl, .set s.keys.refresh pair.refresh s.ttl]

/-- How both credentials may be written. -/
inductive WriteCourse (access refresh : Secret) : List CallStep → Except StoreError Unit → Prop
  | first {e : StoreError} : WriteCourse access refresh
      [⟨.set s.keys.access access s.ttl, .error e⟩] (.error e)
  | second {e : StoreError} : WriteCourse access refresh
      [⟨.set s.keys.access access s.ttl, .ok ()⟩, ⟨.set s.keys.refresh refresh s.ttl, .error e⟩]
      (.error e)
  | both : WriteCourse access refresh
      [⟨.set s.keys.access access s.ttl, .ok ()⟩, ⟨.set s.keys.refresh refresh s.ttl, .ok ()⟩]
      (.ok ())

/-- How a refresh may go. What it sends is the exchange of what it read. -/
inductive RefreshCourse : List CallStep → Except RefreshError AccessGrant → Prop
  | unread {e : StoreError} : RefreshCourse [⟨.get s.keys.refresh, .error e⟩] (.error (.store e))
  | missing : RefreshCourse [⟨.get s.keys.refresh, .ok none⟩] (.error .missingRefreshToken)
  | refused {token : Secret} {message : Outgoing} {answer : Except TransportError Envelope}
      {e : RefreshError} (carried : IsExchange message token)
      (refused : granted answer = .error e) : RefreshCourse
        [⟨.get s.keys.refresh, .ok (some token)⟩, ⟨.send s.destination message, answer⟩] (.error e)
  | kept {token : Secret} {message : Outgoing} {answer : Except TransportError Envelope}
      {grant : AccessGrant} {writes : List CallStep} {stored : Except StoreError Unit}
      (carried : IsExchange message token) (taken : granted answer = .ok grant)
      (written : s.WriteCourse grant.access token writes stored) : RefreshCourse
        ([⟨.get s.keys.refresh, .ok (some token)⟩, ⟨.send s.destination message, answer⟩] ++ writes)
        ((stored.mapError .store).map fun _ => grant)

/-- How a login may go. -/
inductive LoginCourse (email : String) (password : Secret) :
    List CallStep → Except LoginError TokenPair → Prop
  | refused {message : Outgoing} {answer : Except TransportError Envelope} {e : LoginError}
      (carried : IsLogin message email password) (refused : loginGrant answer = .error e) :
      LoginCourse email password [⟨.send s.destination message, answer⟩] (.error e)
  | kept {message : Outgoing} {answer : Except TransportError Envelope} {pair : TokenPair}
      {writes : List CallStep} {stored : Except StoreError Unit}
      (carried : IsLogin message email password) (taken : loginGrant answer = .ok pair)
      (written : s.WriteCourse pair.access pair.refresh writes stored) :
      LoginCourse email password ([⟨.send s.destination message, answer⟩] ++ writes)
        ((stored.mapError .store).map fun _ => pair)

end Courses

section Laws

variable {m : Type → Type} {s : Session m} {steps : List CallStep}

theorem WriteCourse.goesBy {ε α : Type} {access refresh : Secret} {result : Except StoreError Unit}
    (failure? : CallStep → Option ε) (store : StoreError → ε) (payload : α)
    (fine : ∀ key value ttl, failure? ⟨.set key value ttl, .ok ()⟩ = none)
    (failed : ∀ key value ttl e, failure? ⟨.set key value ttl, .error e⟩ = some (store e))
    (h : s.WriteCourse access refresh steps result) :
    GoesBy [.set s.keys.access access s.ttl, .set s.keys.refresh refresh s.ttl] failure? payload
      steps ((result.mapError store).map fun _ => payload) := by
  cases h with
  | first => exact .stop (failed _ _ _ _)
  | second => exact .cons (fine _ _ _) (.stop (failed _ _ _ _))
  | both => exact .cons (fine _ _ _) (.cons (fine _ _ _) .nil)

theorem RefreshCourse.goesBy {result : Except RefreshError AccessGrant}
    (h : s.RefreshCourse steps result) :
    ∃ token message grant, IsExchange message token ∧
      GoesBy (s.refreshCalls token message grant) RefreshError.ofStep? grant steps result := by
  cases h with
  | unread => exact ⟨⟨""⟩, _, ⟨⟨""⟩, ""⟩, isExchange_outgoing _, .stop rfl⟩
  | missing => exact ⟨⟨""⟩, _, ⟨⟨""⟩, ""⟩, isExchange_outgoing _, .stop rfl⟩
  | @refused token message answer e carried refused =>
    have hsent : RefreshError.ofStep? ⟨.send s.destination message, answer⟩ = some e := by
      simp only [RefreshError.ofStep?, refused]
    exact ⟨token, message, ⟨⟨""⟩, ""⟩, carried, .cons rfl (.stop hsent)⟩
  | @kept token message answer grant writes stored carried taken written =>
    have hsent : RefreshError.ofStep? ⟨.send s.destination message, answer⟩ = none := by
      simp only [RefreshError.ofStep?, taken]
    have hwrites := written.goesBy RefreshError.ofStep? .store grant (fun _ _ _ => rfl)
      fun _ _ _ _ => rfl
    exact ⟨token, message, grant, carried, .cons rfl (.cons hsent hwrites)⟩

theorem LoginCourse.goesBy {email : String} {password : Secret}
    {result : Except LoginError TokenPair} (h : s.LoginCourse email password steps result) :
    ∃ message pair, IsLogin message email password ∧
      GoesBy (s.loginCalls message pair) LoginError.ofStep? pair steps result := by
  cases h with
  | @refused message answer e carried refused =>
    have hsent : LoginError.ofStep? ⟨.send s.destination message, answer⟩ = some e := by
      simp only [LoginError.ofStep?, refused]
    exact ⟨message, ⟨⟨""⟩, ⟨""⟩, ""⟩, carried, .stop hsent⟩
  | @kept message answer pair writes stored carried taken written =>
    have hsent : LoginError.ofStep? ⟨.send s.destination message, answer⟩ = none := by
      simp only [LoginError.ofStep?, taken]
    have hwrites := written.goesBy LoginError.ofStep? .store pair (fun _ _ _ => rfl)
      fun _ _ _ _ => rfl
    exact ⟨message, pair, carried, .cons hsent hwrites⟩

/-- What a refresh sends after it read a credential is the exchange of that. -/
theorem RefreshCourse.carries {key : String} {token : Secret} {destination : Url}
    {message : Outgoing} {answer : Except TransportError Envelope} {rest : List CallStep}
    {result : Except RefreshError AccessGrant}
    (h : s.RefreshCourse
      (⟨.get key, .ok (some token)⟩ :: ⟨.send destination message, answer⟩ :: rest) result) :
    IsExchange message token := by
  generalize hsteps : CallStep.mk (.get key) (.ok (some token)) ::
    ⟨.send destination message, answer⟩ :: rest = made at h
  cases h with
  | unread => cases hsteps
  | missing => cases hsteps
  | refused carried =>
    cases hsteps
    exact carried
  | kept carried =>
    cases hsteps
    exact carried

theorem RefreshCourse.cautious {result : Except RefreshError AccessGrant}
    (h : s.RefreshCourse steps result) : Cautious s.destination granted steps := by
  obtain ⟨token, message, grant, hcarried, hgoes⟩ := h.goesBy
  refine hgoes.cautious (Nat.le_refl 1) (fun destination message' hsent => ?_) ?_
  · simp only [refreshCalls, List.mem_cons, Call.send.injEq, reduceCtorEq, List.not_mem_nil,
      or_false, false_or] at hsent
    obtain ⟨rfl, rfl⟩ := hsent
    exact ⟨rfl, hcarried.bare⟩
  · cases h with
    | @kept token message answer grant writes stored _ taken =>
      exact fun _ _ _ => ⟨message, answer, grant, List.mem_append_left _ (by simp), taken⟩
    | _ => simp [Call.isWrite]

theorem LoginCourse.cautious {email : String} {password : Secret}
    {result : Except LoginError TokenPair} (h : s.LoginCourse email password steps result) :
    Cautious s.destination loginGrant steps := by
  obtain ⟨message, pair, hcarried, hgoes⟩ := h.goesBy
  refine hgoes.cautious (Nat.le_refl 1) (fun destination message' hsent => ?_) ?_
  · simp only [loginCalls, List.mem_cons, Call.send.injEq, reduceCtorEq, List.not_mem_nil,
      or_false] at hsent
    obtain ⟨rfl, rfl⟩ := hsent
    exact ⟨rfl, hcarried.bare⟩
  · cases h with
    | @kept message answer pair writes stored _ taken =>
      exact fun _ _ _ => ⟨message, answer, pair, List.mem_append_left _ (by simp), taken⟩
    | refused => simp [Call.isWrite]

end Laws

section Runs

theorem keepGrant_eq {m : Type → Type} [Monad m] [LawfulMonad m] (s : Session m) (token : Secret)
    (grant : AccessGrant) :
    s.keepGrant token grant = (do
      match ← s.store.storePair s.keys ⟨grant.access, token, grant.tokenType⟩ s.ttl with
      | .error e => return .error (.store e)
      | .ok () =>
        s.log.info "Refreshed access token"
        return .ok grant) := by
  unfold keepGrant Store.storePair
  rw [bind_assoc]
  refine bind_congr fun stored => ?_
  cases stored with
  | error e => rw [pure_bind]
  | ok => rfl

variable {σ : Type} (s : Session (StateM σ)) (start : σ)

theorem records_storePair (pair : TokenPair) : ∃ steps stored after,
    Records (s.store.storePair s.keys pair s.ttl) (s.store.noted.storePair s.keys pair s.ttl) start
      steps stored after ∧
      s.WriteCourse pair.access pair.refresh steps stored := by
  obtain ⟨first, s₁, hfirst⟩ := Records.step (s.store.set s.keys.access pair.access s.ttl)
    (CallStep.mk (.set s.keys.access pair.access s.ttl)) start
  cases first with
  | error e => exact ⟨_, _, s₁, hfirst.bind (.pure _ _), .first⟩
  | ok =>
    obtain ⟨second, s₂, hsecond⟩ := Records.step (s.store.set s.keys.refresh pair.refresh s.ttl)
      (CallStep.mk (.set s.keys.refresh pair.refresh s.ttl)) s₁
    cases second with
    | error e => exact ⟨_, _, s₂, hfirst.bind hsecond, .second⟩
    | ok => exact ⟨_, _, s₂, hfirst.bind hsecond, .both⟩

theorem records_keepGrant (token : Secret) (grant : AccessGrant) : ∃ steps stored after,
    Records (s.keepGrant token grant) (s.noted.keepGrant token grant) start steps
      ((stored.mapError .store).map fun _ => grant) after ∧
      s.WriteCourse grant.access token steps stored := by
  obtain ⟨steps, stored, s₁, hrecords, hwrites⟩ :=
    s.records_storePair start ⟨grant.access, token, grant.tokenType⟩
  rw [keepGrant_eq, keepGrant_eq]
  refine ⟨steps, stored, ?_⟩
  cases stored with
  | error e => exact ⟨s₁, hrecords.bind_silent (.pure _ _), hwrites⟩
  | ok =>
    obtain ⟨s₂, hlog⟩ := Records.log s.log ⟨.info, "Refreshed access token"⟩ s₁
    exact ⟨s₂, hrecords.bind_silent (hlog.bind (.pure _ _)), hwrites⟩

theorem records_refresh : ∃ steps result after,
    Records s.refresh s.noted.refresh start steps result after ∧ s.RefreshCourse steps result := by
  rw [refresh_eq, refresh_eq]
  obtain ⟨read, s₁, hread⟩ := Records.step (s.store.get s.keys.refresh)
    (CallStep.mk (.get s.keys.refresh)) start
  match read with
  | .error e => exact ⟨_, _, s₁, hread.bind (.pure _ _), .unread⟩
  | .ok none => exact ⟨_, _, s₁, hread.bind (.pure _ _), .missing⟩
  | .ok (some token) =>
    obtain ⟨s₂, hlog⟩ := Records.log s.log
      ⟨.debug, "Exchanging refresh token for a new access token"⟩ s₁
    obtain ⟨answer, s₃, hsent⟩ := Records.step
      (s.transport.send s.destination (refreshRequest token).outgoing)
      (CallStep.mk (.send s.destination (refreshRequest token).outgoing)) s₂
    cases hgrant : granted answer with
    | error e =>
      refine ⟨_, _, s₃, hread.bind (hlog.bind (hsent.bind_silent ?_)),
        .refused (isExchange_outgoing token) hgrant⟩
      simp only [hgrant]
      exact .pure _ _
    | ok grant =>
      obtain ⟨writes, stored, s₄, hkept, hwrites⟩ := s.records_keepGrant s₃ token grant
      refine ⟨_, _, s₄, hread.bind (hlog.bind (hsent.bind ?_)),
        .kept (isExchange_outgoing token) hgrant hwrites⟩
      simp only [hgrant]
      exact hkept

theorem records_login (email : String) (password : Secret) : ∃ steps result after,
    Records (s.login email password) (s.noted.login email password) start steps result after ∧
      s.LoginCourse email password steps result := by
  rw [login_eq, login_eq]
  obtain ⟨answer, s₁, hsent⟩ := Records.step
    (s.transport.send s.destination (loginRequest email password).outgoing)
    (CallStep.mk (.send s.destination (loginRequest email password).outgoing)) start
  cases hgrant : loginGrant answer with
  | error e =>
    refine ⟨_, _, s₁, hsent.bind_silent ?_, .refused (isLogin_outgoing email password) hgrant⟩
    simp only [hgrant]
    exact .pure _ _
  | ok pair =>
    obtain ⟨writes, stored, s₂, hrecords, hwrites⟩ := s.records_storePair s₁ pair
    cases stored with
    | error e =>
      refine ⟨_, _, s₂, hsent.bind ?_, .kept (isLogin_outgoing email password) hgrant hwrites⟩
      simp only [hgrant]
      exact hrecords.bind_silent (.pure _ _)
    | ok =>
      obtain ⟨s₃, hlog⟩ := Records.log s.log ⟨.info, "Logged in as " ++ email⟩ s₂
      refine ⟨_, _, s₃, hsent.bind ?_, .kept (isLogin_outgoing email password) hgrant hwrites⟩
      simp only [hgrant]
      exact hrecords.bind_silent (hlog.bind (.pure _ _))

end Runs

end Session

/-- Whatever transport and store do, a refresh reads the refresh credential, exchanges the one that
it read, and writes the access credential that it is granted and the refresh credential that it
read; a login exchanges what it is given and writes both credentials. Each stops at the first of its
steps that fails and comes to why it did. A rejection has the problems of the answer in their
order. -/
theorem exchanges_stop_at_failure {σ : Type} (s : Session (StateM σ)) (start : σ) :
    (∃ steps result after, Records s.refresh s.noted.refresh start steps result after ∧
      s.RefreshCourse steps result ∧ Cautious s.destination granted steps ∧
      ∃ token message grant, IsExchange message token ∧
        GoesBy (s.refreshCalls token message grant) RefreshError.ofStep? grant steps result) ∧
    (∀ email password, ∃ steps result after,
      Records (s.login email password) (s.noted.login email password) start steps result after ∧
      s.LoginCourse email password steps result ∧ Cautious s.destination loginGrant steps ∧
      ∃ message pair, IsLogin message email password ∧
        GoesBy (s.loginCalls message pair) LoginError.ofStep? pair steps result) ∧
    (∀ answer, ExchangeEnds RefreshData.read RefreshData.result .request .rejected answer
      (granted answer)) ∧
    (∀ answer, ExchangeEnds LoginData.read LoginData.result .request .rejected answer
      (loginGrant answer)) ∧
    ∀ {entries vs problems envelope data}, envelope.errors.getD [] = [] →
      find? "problems" entries = some (.array vs) → List.Forall₂ Reports vs problems →
      (Answered "refreshToken" entries envelope data →
        granted (.ok envelope) = .error (.rejected problems)) ∧
      (Answered "login" entries envelope data →
        loginGrant (.ok envelope) = .error (.rejected problems)) := by
  refine ⟨?_, fun email password => ?_, fun answer => ?_, fun answer => ?_, ?_⟩
  · obtain ⟨steps, result, after, hrecords, hcourse⟩ := s.records_refresh start
    exact ⟨steps, result, after, hrecords, hcourse, hcourse.cautious, hcourse.goesBy⟩
  · obtain ⟨steps, result, after, hrecords, hcourse⟩ := s.records_login start email password
    exact ⟨steps, result, after, hrecords, hcourse, hcourse.cautious, hcourse.goesBy⟩
  · rw [granted_eq_exchanged]
    exact exchangeEnds_exchanged answer
  · rw [loginGrant_eq_exchanged]
    exact exchangeEnds_exchanged answer
  · intro entries vs problems envelope data sound listed reports
    refine ⟨fun ⟨given, ordered, carries⟩ => ?_, fun ⟨given, ordered, carries⟩ => ?_⟩
    · rw [granted_eq_exchanged]
      exact exchanged_listed sound given (RefreshData.read_carried carries ordered) (fun _ => rfl)
        listed reports
    · rw [loginGrant_eq_exchanged]
      exact exchanged_listed sound given (LoginData.read_carried carries ordered) (fun _ => rfl)
        listed reports

/-- The answer that grants an access credential. -/
def grantingReply : Envelope := twofold (.object [("accessToken", .string "new")])

/-- The theorem where an exchange is granted: the credential that was read is exchanged, and written
again after the granted one. Where two problems are listed beside both credentials nothing is
written. -/
theorem exchanges_stop_at_failure_of_granted :
    let listed : List Value := [.object [("__typename", .string "InvalidRefreshTokenProblem"),
      ("message", .string "revoked")], .object [("__typename", .string "RateLimitedProblem")]]
    let m := MemoryStore.ofValues [("refreshToken", "old")] .least
    (let s := replyingSession grantingReply
      ∃ message after, Records s.refresh s.noted.refresh m
          [⟨.get "refreshToken", .ok (some ⟨"old"⟩)⟩,
            ⟨.send s.destination message, .ok grantingReply⟩,
            ⟨.set "accessToken" ⟨"new"⟩ defaultTtl, .ok ()⟩,
            ⟨.set "refreshToken" ⟨"old"⟩ defaultTtl, .ok ()⟩]
          (.ok ⟨⟨"new"⟩, "Bearer"⟩) after ∧
        IsExchange message ⟨"old"⟩) ∧
      let s := replyingSession (twofold (.object (credentialsBeside (.array listed))))
      ∃ steps, Records s.refresh s.noted.refresh m steps
          (.error (.rejected [.invalidRefreshToken "revoked", .unknown])) m ∧
        steps.length = 2 ∧ ∀ step ∈ steps, step.call.isWrite = false := by
  intro listed m
  refine ⟨?_, ?_⟩
  · intro s
    obtain ⟨⟨steps, result, after, hrecords, hcourse, -⟩, -⟩ := exchanges_stop_at_failure s m
    have hrun : (s.noted.refresh.run []).run m = ((.ok ⟨⟨"new"⟩, "Bearer"⟩,
        [⟨.get "refreshToken", .ok (some ⟨"old"⟩)⟩,
          ⟨.send s.destination (refreshRequest ⟨"old"⟩).outgoing, .ok grantingReply⟩,
          ⟨.set "accessToken" ⟨"new"⟩ defaultTtl, .ok ()⟩,
          ⟨.set "refreshToken" ⟨"old"⟩ defaultTtl, .ok ()⟩]), _) := rfl
    obtain ⟨hcalls, -⟩ := Prod.mk.inj ((hrecords.recording []).symm.trans hrun)
    obtain ⟨rfl, hsteps⟩ := Prod.mk.inj hcalls
    rw [List.nil_append] at hsteps
    subst hsteps
    exact ⟨_, after, hrecords, hcourse.carries⟩
  · intro s
    obtain ⟨⟨steps, result, after, hrecords, hcourse, -⟩, -, -, -, hrejected⟩ :=
      exchanges_stop_at_failure s m
    have hordered : (Value.object [("login", .object (credentialsBeside (.array listed))),
        ("refreshToken", .object (credentialsBeside (.array listed)))]).IsOrdered := by
      simp only [Value.IsOrdered, Value.AreOrderedFields, Value.AreOrdered, credentialsBeside,
        listed, and_true, true_and]
      decide
    have hreports : List.Forall₂ Reports listed [.invalidRefreshToken "revoked", .unknown] :=
      .cons (.invalidRefreshToken rfl rfl) (.cons (.unknown rfl (by decide)) .nil)
    have hanswered : Answered "refreshToken" (credentialsBeside (.array listed))
        (twofold (.object (credentialsBeside (.array listed)))) _ := ⟨rfl, hordered, .field rfl⟩
    have hrefused := (hrejected rfl rfl hreports).1 hanswered
    have hread : (s.store.get s.keys.refresh).run m = (.ok (some ⟨"old"⟩), m) := rfl
    have hrun := s.refresh_run hread rfl
    rw [hrefused] at hrun
    obtain ⟨hresult, rfl⟩ := Prod.mk.inj (hrecords.plain.symm.trans hrun)
    refine ⟨steps, hresult ▸ hrecords, ?_⟩
    cases hcourse with
    | unread => cases hresult
    | missing => cases hresult
    | refused => exact ⟨rfl, by simp [Call.isWrite]⟩
    | @kept _ _ _ _ _ stored => cases stored <;> cases hresult

end BearerSession
