import BearerSession.Proofs.ExchangeCourse

namespace BearerSession

open GraphQL (Envelope Request Transport defaultHeaders)
open Json (Document Value readText readValue depthLimit)
open Json.Node (ofValue)

namespace Session

variable {m : Type → Type} {s : Session m} {steps : List CallStep}

theorem WriteCourse.sends_nothing {access refresh : Secret} {result : Except StoreError Unit}
    (h : s.WriteCourse access refresh steps result) :
    ∀ step ∈ steps, step.call.isSend = false := by
  cases h <;> simp [Call.isSend]

theorem LoginCourse.sends {email : String} {password : Secret}
    {result : Except LoginError TokenPair} (h : s.LoginCourse email password steps result) :
    ∃ message answer rest, steps = ⟨.send s.destination message, answer⟩ :: rest ∧
      IsLogin message email password ∧ ∀ step ∈ rest, step.call.isSend = false := by
  cases h with
  | @refused message answer e carried refused =>
    exact ⟨message, answer, [], rfl, carried, List.forall_mem_nil _⟩
  | @kept message answer pair writes stored carried taken written =>
    exact ⟨message, answer, writes, rfl, carried, written.sends_nothing⟩

/-- A refresh sends what it read, if it sends anything. -/
theorem RefreshCourse.sends {result : Except RefreshError AccessGrant}
    (h : s.RefreshCourse steps result) :
    (∀ step ∈ steps, step.call.isSend = false) ∨
      ∃ token message answer rest,
        steps = ⟨.get s.keys.refresh, .ok (some token)⟩ :: ⟨.send s.destination message, answer⟩ ::
          rest ∧
        IsExchange message token ∧ ∀ step ∈ rest, step.call.isSend = false := by
  cases h with
  | unread => exact .inl (by simp [Call.isSend])
  | missing => exact .inl (by simp [Call.isSend])
  | @refused token message answer e carried refused =>
    exact .inr ⟨token, message, answer, [], rfl, carried, List.forall_mem_nil _⟩
  | @kept token message answer grant writes stored carried taken written =>
    exact .inr ⟨token, message, answer, writes, rfl, carried, written.sends_nothing⟩

end Session

theorem records_sent {σ α : Type} (transport : Transport (StateM σ)) (destination : Url)
    (message : GraphQL.Outgoing) (f : Except GraphQL.TransportError Envelope → α) (start : σ) :
    ∃ answer after, Records (f <$> transport.send destination message)
      (f <$> transport.noted.send destination message) start
      [⟨.send destination message, answer⟩] (f answer) after := by
  obtain ⟨answer, after, hsent⟩ := Records.step (transport.send destination message)
    (CallStep.mk (.send destination message)) start
  rw [map_eq_pure_bind, map_eq_pure_bind]
  exact ⟨answer, after, hsent.bind_silent (.pure _ _)⟩

/-- The body that is sent for a request without binary fractions, and nested no deeper than may be
read, conveys its query and its variables. A login sends one body, of the login mutation with the
email address and the password as its variables, and an exchange one of the refresh mutation with
the token, whatever characters these have; a refresh sends the one it read, or nothing. -/
theorem request_body_conveys {σ : Type} (s : Session (StateM σ)) (start : σ) :
    (∀ r : Request, (∀ v, r.variableValues = some v → v.IsExact) → r.body.depth ≤ depthLimit →
      ∃ body answer after,
        Records (GraphQL.send s.transport s.destination r)
          (GraphQL.send s.transport.noted s.destination r) start
          [⟨.send s.destination ⟨"POST", body, defaultHeaders.overlay r.headers⟩, answer⟩]
          (received answer) after ∧
        Conveys body r.query r.variableValues ∧
        ((∀ v, r.variableValues = some v → v.IsOrdered) →
          readText readValue (body.toList.map some) =
            .ok (.object (bodyFields r.query r.variableValues)))) ∧
    (∀ email password, ∃ message answer rest result after,
      Records (s.login email password) (s.noted.login email password) start
        (⟨.send s.destination message, answer⟩ :: rest) result after ∧
      (∀ step ∈ rest, step.call.isSend = false) ∧
      Conveys message.body loginMutation
        (some (.object [("email", .string email), ("password", .string password.expose)]))) ∧
    (∀ token, ∃ message answer after,
      Records (requestAccessGrant s.transport s.destination token)
        (requestAccessGrant s.transport.noted s.destination token) start
        [⟨.send s.destination message, answer⟩] (granted answer) after ∧
      Conveys message.body refreshMutation (some (.object [("token", .string token.expose)]))) ∧
    ∃ steps result after, Records s.refresh s.noted.refresh start steps result after ∧
      ((∀ step ∈ steps, step.call.isSend = false) ∨
        ∃ token message answer rest,
          steps = ⟨.get s.keys.refresh, .ok (some token)⟩ ::
            ⟨.send s.destination message, answer⟩ :: rest ∧
          (∀ step ∈ rest, step.call.isSend = false) ∧
          Conveys message.body refreshMutation
            (some (.object [("token", .string token.expose)]))) := by
  refine ⟨fun r exact depth => ?_, fun email password => ?_, fun token => ?_, ?_⟩
  · obtain ⟨answer, after, hsent⟩ :=
      records_sent s.transport s.destination r.outgoing received start
    have hconveys := conveys_outgoing r exact depth
    rw [graphql_send_eq, graphql_send_eq]
    exact ⟨r.outgoing.body, answer, after, hsent, hconveys, hconveys.value_of_isOrdered⟩
  · obtain ⟨steps, result, after, hrecords, hcourse⟩ := s.records_login start email password
    obtain ⟨message, answer, rest, rfl, hlogin, hrest⟩ := hcourse.sends
    exact ⟨message, answer, rest, result, after, hrecords, hrest, hlogin.body⟩
  · obtain ⟨answer, after, hsent⟩ :=
      records_sent s.transport s.destination (refreshRequest token).outgoing granted start
    rw [requestAccessGrant_eq, requestAccessGrant_eq]
    exact ⟨_, answer, after, hsent, (isExchange_outgoing token).body⟩
  · obtain ⟨steps, result, after, hrecords, hcourse⟩ := s.records_refresh start
    refine ⟨steps, result, after, hrecords, ?_⟩
    rcases hcourse.sends with hnone | ⟨token, message, answer, rest, hsteps, hexchange, hrest⟩
    · exact .inl hnone
    · exact .inr ⟨token, message, answer, rest, hsteps, hrest, hexchange.body⟩

/-- A query with quotes and backslashes in it, and variables that are null. -/
def quotedRequest : Request :=
  { query := "query \x7b user(name: \"a\\\"b\") \x7b id \x7d \x7d", variableValues := some .null }

/-- An email address that would close its own string and bring in a field. -/
def forgedEmail : String := "a\",\"admin\":\"\u0000"

/-- The theorem at such a request, and at a login with such an address. -/
theorem request_body_conveys_of_quotes :
    let s := replyingSession .empty
    let m := MemoryStore.ofValues [] .least
    (∃ body answer after,
      Records (GraphQL.send s.transport s.destination quotedRequest)
        (GraphQL.send s.transport.noted s.destination quotedRequest) m
        [⟨.send s.destination ⟨"POST", body, defaultHeaders⟩, answer⟩] (received answer) after ∧
      readText readValue (body.toList.map some) =
        .ok (.object [("query", .string quotedRequest.query), ("variables", .null)])) ∧
    ∃ message answer rest result after,
      Records (s.login forgedEmail ⟨"\\"⟩) (s.noted.login forgedEmail ⟨"\\"⟩) m
        (⟨.send s.destination message, answer⟩ :: rest) result after ∧
      Conveys message.body loginMutation (some (.object
        [("email", .string forgedEmail), ("password", .string "\\")])) := by
  intro s m
  obtain ⟨hsend, hlogin, -⟩ := request_body_conveys s m
  have hexact : ∀ v, quotedRequest.variableValues = some v → v.IsExact := by
    intro v hv
    cases hv
    trivial
  have hordered : ∀ v, quotedRequest.variableValues = some v → v.IsOrdered := by
    intro v hv
    cases hv
    trivial
  obtain ⟨body, answer, after, hrecords, -, hread⟩ := hsend quotedRequest hexact (by decide)
  obtain ⟨message, answer', rest, result, after', hlogged, -, hconveys⟩ :=
    hlogin forgedEmail ⟨"\\"⟩
  exact ⟨⟨body, answer, after, hrecords, hread hordered⟩,
    ⟨message, answer', rest, result, after', hlogged, hconveys⟩⟩

end BearerSession
