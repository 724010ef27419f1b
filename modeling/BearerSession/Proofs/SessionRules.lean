import BearerSession.Proofs.Conduct
import BearerSession.Proofs.JsonText
import BearerSession.Proofs.SessionSteps

namespace BearerSession

open GraphQL (Envelope Outgoing Request RequestError TransportError)

/-- A call of a session. -/
inductive SessionCall : Type 1
  | request (r : Request)
  | requestAs {α : Type} (r : Request) (read : Json.Reader α)
  | refresh
  | login (email : String) (password : Secret)
  | logout

namespace SessionCall

/-- Makes a call. Its result is not looked at. -/
def run (s : Session Script) : SessionCall → Script Unit
  | request r => do let _ ← s.request r
  | requestAs r read => do let _ ← s.requestAs r read
  | refresh => do let _ ← s.refresh
  | login email password => do let _ ← s.login email password
  | logout => do let _ ← s.logout

def document? : SessionCall → Option String
  | request r => some r.query
  | requestAs r _ => some r.query
  | _ => none

end SessionCall

/-- What a login comes to by the answer to its message. -/
def loginGrant (answer : Except TransportError Envelope) : Except LoginError TokenPair :=
  match (received answer).bind (GraphQL.decode LoginData.read) with
  | .error e => .error (.request e)
  | .ok data =>
    match data.result.split with
    | .error problems => .error (.rejected problems)
    | .ok pair => .ok pair

/-- A message that carries the mutation for a refresh. -/
def IsRefreshMutation (message : Outgoing) : Prop :=
  ∃ r : Request, r.query = refreshMutation ∧ message = r.outgoing

theorem query_of_outgoing {r r' : Request} (h : r.outgoing = r'.outgoing) : r.query = r'.query := by
  have hbody : r.body.compact = r'.body.compact := by
    have htext : r.body.text = r'.body.text := congrArg Outgoing.body h
    simpa [Json.Value.text] using congrArg String.toList htext
  have htokens (r : Request) : ∃ ts, Json.tokensAfter 0 (r.body.compact.map some) =
      .openObject :: .string (.ok "query") (.ok ()) :: .colon :: .string (.ok r.query) (.ok ()) ::
        ts := by
    unfold Request.body
    simp only [Json.Value.compact, List.map_cons, List.map_append, Json.tokensAfter_openObject,
      Json.tokensAfter_quote, Json.tokensAfter_colon]
    exact ⟨_, rfl⟩
  obtain ⟨ts, hts⟩ := htokens r
  obtain ⟨ts', hts'⟩ := htokens r'
  rw [hbody, hts'] at hts
  simp only [List.cons.injEq, Json.Token.string.injEq, Except.ok.injEq, true_and] at hts
  exact hts.1.1.symm

/-- The latest message of a task, and the answer to it. -/
def lastSent? : List Moment → Option (Outgoing × Except TransportError Envelope)
  | [] => none
  | ⟨_, .send _ message, answer⟩ :: _ => some (message, answer)
  | _ :: h => lastSent? h

/-- The refresh credential that a task read last, if there was one. -/
def fetched? (keys : CredentialKeys) : List Moment → Option Secret
  | [] => none
  | ⟨_, .get key, answer⟩ :: h =>
    if key = keys.refresh then answer.toOption.join else fetched? keys h
  | _ :: h => fetched? keys h

/-- Calls that share a session. -/
structure SharedSession where
  destination : Url
  options : SessionOptions
  redirects : Bool
  calls : List SessionCall

namespace SharedSession

variable (c : SharedSession)

def session : Session Script := Script.session c.destination c.options c.redirects

def programs : List (Script Unit) := c.calls.map fun call => call.run c.session

def tasks : List (Task Call Call.Answer Unit) := c.programs.map .ready

def IsLogin (i : Nat) : Prop := ∃ email password, c.calls[i]? = some (.login email password)

/-- A call for the refresh mutation itself: a refresh, or a request with that document. -/
def AsksExchange (i : Nat) : Prop :=
  c.calls[i]? = some .refresh ∨ ∃ call ∈ c.calls[i]?, call.document? = some refreshMutation

/-- A login was granted what it writes. -/
def LoginWrites (i : Nat) (h : List Moment) (key : String) (value : Secret) : Prop :=
  ∃ email password answer pair, c.calls[i]? = some (.login email password) ∧
    lastSent? h = some ((loginRequest email password).outgoing, answer) ∧
    loginGrant answer = .ok pair ∧
    (key = c.options.keys.access ∧ value = pair.access ∨
      key = c.options.keys.refresh ∧ value = pair.refresh)

/-- A refresh was granted the access credential that it writes, in exchange for the refresh
credential that it writes and had read. -/
def RefreshWrites (i : Nat) (h : List Moment) (key : String) (value : Secret) : Prop :=
  ∃ token answer grant, ¬ c.IsLogin i ∧ fetched? c.options.keys h = some token ∧
    lastSent? h = some ((refreshRequest token).outgoing, answer) ∧ granted answer = .ok grant ∧
    (key = c.options.keys.access ∧ value = grant.access ∨
      key = c.options.keys.refresh ∧ value = token)

/-- The rules for a call of the session, by what it did before. -/
inductive Permits (i : Nat) (h : List Moment) : Call → Prop
  | read {key} : Permits i h (.get key)
  | loginWrite {key value} : c.LoginWrites i h key value →
      Permits i h (.set key value c.options.ttl)
  | refreshWrite {key value} : c.RefreshWrites i h key value →
      Permits i h (.set key value c.options.ttl)
  | removeAccess : Permits i h (.remove c.options.keys.access)
  /-- The refresh credential is removed right after the access credential. -/
  | removeRefresh {answer before} : h = ⟨i, .remove c.options.keys.access, answer⟩ :: before →
      Permits i h (.remove c.options.keys.refresh)
  /-- With a gate, whoever sends a refresh mutation was asked for it or is inside the gate. -/
  | send {message} : (c.options.singleFlight = true → IsRefreshMutation message →
        c.AsksExchange i ∨ inside h = true) → Permits i h (.send c.destination message)
  | log {line} : Permits i h (.log line)
  | redirect : Permits i h (.note .redirect)
  | count : Permits i h .completed
  | look : Permits i h .last
  | settle {outcome} : Permits i h (.settle outcome)
  | arrive : Permits i h .acquire
  | leave : inside h = true → Permits i h .release

def conduct : Conduct where
  permits := c.Permits
  release hp := by
    cases hp
    assumption

end SharedSession

namespace Program

variable {α : Type} {i : Nat} {permits : List Moment → Call → Prop} {h : List Moment}
  {wants : α → List Moment → Prop} {call : Call}

theorem follows_call {f : call.Answer → Script α} (hp : permits h call)
    (hf : ∀ a, (f a).Follows i permits wants (⟨i, call, a⟩ :: h)) :
    (Script.ask call >>= f).Follows i permits wants h := ⟨hp, hf⟩

theorem follows_last {wants : call.Answer → List Moment → Prop} (hp : permits h call)
    (hw : ∀ a, wants a (⟨i, call, a⟩ :: h)) : (Script.ask call).Follows i permits wants h :=
  ⟨hp, hw⟩

end Program

namespace SharedSession

variable {c : SharedSession} {i : Nat} {h : List Moment}

open Program

/-- A refresh leaves its task inside the gate or outside, as it was. -/
theorem refresh_follows (hlogin : ¬ c.IsLogin i)
    (hinside : c.options.singleFlight = true → c.calls[i]? = some .refresh ∨ inside h = true) :
    c.session.refresh.Follows i (c.Permits i) (fun _ h' => inside h' = inside h) h := by
  rw [Session.refresh_eq]
  refine follows_call .read fun read => ?_
  match read with
  | .error e => exact rfl
  | .ok none => exact rfl
  | .ok (some token) =>
    refine follows_call .log fun _ => ?_
    refine follows_call (.send fun hgate _ => ?_) fun answer => ?_
    · exact (hinside hgate).imp_left .inl
    · cases hgrant : granted answer with
      | error e => exact rfl
      | ok grant =>
        refine follows_call (.refreshWrite ⟨token, answer, grant, hlogin, if_pos rfl, rfl, hgrant,
          .inl ⟨rfl, rfl⟩⟩) fun stored => ?_
        cases stored with
        | error e => exact rfl
        | ok =>
          refine follows_call (.refreshWrite ⟨token, answer, grant, hlogin, if_pos rfl, rfl, hgrant,
            .inr ⟨rfl, rfl⟩⟩) fun stored => ?_
          cases stored with
          | error e => exact rfl
          | ok => exact follows_call .log fun _ => rfl

theorem login_follows {email : String} {password : Secret}
    (hcall : c.calls[i]? = some (.login email password)) :
    (c.session.login email password).Follows i (c.Permits i) (fun _ _ => True) h := by
  have hmessage : ¬ IsRefreshMutation (loginRequest email password).outgoing := by
    rintro ⟨r, hquery, heq⟩
    have hlogin : loginMutation = r.query := query_of_outgoing heq
    rw [hquery] at hlogin
    exact absurd hlogin (by decide +kernel)
  unfold Session.login BearerSession.login GraphQL.sendAs
  rw [graphql_send_eq]
  simp only [bind_map_left, bind_assoc, pure_bind]
  refine follows_call (.send fun _ hexchange => absurd hexchange hmessage) fun answer => ?_
  cases hdata : (received answer).bind (GraphQL.decode LoginData.read) with
  | error e => exact trivial
  | ok data =>
    dsimp only
    cases hsplit : data.result.split with
    | error problems => exact trivial
    | ok pair =>
      have hgrant : loginGrant answer = .ok pair := by simp [loginGrant, hdata, hsplit]
      have hwrite {h' : List Moment} {key : String} {value : Secret}
          (hsent : lastSent? h' = some ((loginRequest email password).outgoing, answer))
          (hpair : key = c.options.keys.access ∧ value = pair.access ∨
            key = c.options.keys.refresh ∧ value = pair.refresh) :
          c.Permits i h' (.set key value c.options.ttl) :=
        .loginWrite ⟨email, password, answer, pair, hcall, hsent, hgrant, hpair⟩
      unfold Store.storePair
      dsimp only
      rw [bind_assoc]
      refine follows_call (hwrite rfl (.inl ⟨rfl, rfl⟩)) fun stored => ?_
      cases stored with
      | error e => exact trivial
      | ok =>
        refine follows_call (hwrite rfl (.inr ⟨rfl, rfl⟩)) fun stored => ?_
        cases stored with
        | error e => exact trivial
        | ok => exact follows_call .log fun _ => trivial

theorem logout_follows :
    c.session.logout.Follows i (c.Permits i) (fun _ _ => True) h := by
  unfold Session.logout BearerSession.logout
  refine follows_call .removeAccess fun access => ?_
  refine follows_call (.removeRefresh rfl) fun refresh => ?_
  cases access with
  | error e => exact follows_call .log fun _ => trivial
  | ok =>
    cases refresh with
    | error e => exact follows_call .log fun _ => trivial
    | ok =>
      refine follows_call .log fun _ => ?_
      have hredirect : c.session.redirect =
          if c.redirects then Script.note .redirect else pure () := rfl
      rw [hredirect]
      cases c.redirects with
      | false => exact trivial
      | true => exact follows_call .redirect fun _ => trivial

theorem invalidate_follows :
    c.session.invalidate.Follows i (c.Permits i) (fun _ _ => True) h := by
  unfold Session.invalidate
  refine follows_bind.mpr (logout_follows.mono fun result h' _ => ?_)
  cases result with
  | ok => exact trivial
  | error e => exact follows_last .log fun _ => trivial

/-- A recovery goes through the gate if there is one, and is inside while it refreshes. -/
theorem recover_follows (hlogin : ¬ c.IsLogin i) :
    c.session.recover.Follows i (c.Permits i) (fun _ _ => True) h := by
  unfold Session.recover Session.refreshOutcome
  cases hs : c.options.singleFlight with
  | false =>
    have hgate : c.session.gate = none := by simp [session, Script.session, hs]
    rw [hgate]
    dsimp only
    rw [bind_assoc]
    refine follows_bind.mpr ((refresh_follows hlogin fun h => ?_).mono fun _ _ _ => trivial)
    rw [hs] at h
    cases h
  | true =>
    have hgate : c.session.gate = some Script.gate := by simp [session, Script.session, hs]
    have hrun : (Script.gate.run c.session.log
        (do return (← c.session.refresh).map fun _ => ())).Follows i (c.Permits i)
          (fun _ _ => True) h := by
      unfold Gate.run
      refine follows_call .count fun ticket => ?_
      refine follows_call .arrive fun _ => ?_
      refine follows_call .count fun completed => ?_
      refine follows_call .look fun last => ?_
      cases (if ticket < completed then last else none) with
      | some outcome =>
        refine follows_call .log fun _ => ?_
        exact follows_call (.leave rfl) fun _ => trivial
      | none =>
        rw [bind_assoc]
        refine follows_bind.mpr ((refresh_follows hlogin fun _ => .inr rfl).mono ?_)
        intro outcome h' hinside
        refine follows_call .settle fun _ => ?_
        exact follows_call (.leave hinside) fun _ => trivial
    rw [hgate]
    exact follows_bind.mpr (hrun.mono fun _ _ _ => trivial)

theorem attempt_follows {r : Request} {kind : Attempt}
    (hcall : ∃ call ∈ c.calls[i]?, call.document? = some r.query) :
    (c.session.attempt r kind).Follows i (c.Permits i) (fun _ _ => True) h := by
  have hsend (auth : Headers) {h' : List Moment} :
      c.Permits i h' (.send c.destination (attemptMessage r auth)) := by
    refine .send fun _ ⟨r', hquery, heq⟩ => .inl (.inr ?_)
    have hsame : r.query = r'.query :=
      query_of_outgoing (r := { r with headers := r.headers.overlay auth }) heq
    rw [← hquery, ← hsame]
    exact hcall
  rw [Session.attempt_eq]
  refine follows_call .read fun read => ?_
  cases read with
  | error e =>
    refine follows_call .log fun _ => ?_
    refine follows_call .log fun _ => ?_
    exact follows_call (hsend _) fun _ => trivial
  | ok access =>
    refine follows_call .log fun _ => ?_
    exact follows_call (hsend _) fun _ => trivial

theorem request_follows {r : Request} (hlogin : ¬ c.IsLogin i)
    (hcall : ∃ call ∈ c.calls[i]?, call.document? = some r.query) :
    (c.session.request r).Follows i (c.Permits i) (fun _ _ => True) h := by
  unfold Session.request Auth.send
  refine follows_bind.mpr ((attempt_follows hcall).mono fun response h' _ => ?_)
  cases response with
  | ok data => exact trivial
  | error failure =>
    dsimp only
    cases failure.authFailure? with
    | none => exact trivial
    | some reason =>
      refine follows_call .log fun _ => ?_
      refine follows_bind.mpr ((recover_follows hlogin).mono fun recovery h' _ => ?_)
      cases recovery with
      | ok => exact attempt_follows hcall
      | error e =>
        refine follows_call .log fun _ => ?_
        exact follows_bind.mpr (invalidate_follows.mono fun _ _ _ => attempt_follows hcall)

theorem run_follows (c : SharedSession) (i : Nat) (p : Script Unit) (hp : c.programs[i]? = some p) :
    p.Follows i (c.conduct.permits i) (fun _ _ => True) [] := by
  unfold programs at hp
  rw [List.getElem?_map, Option.map_eq_some_iff] at hp
  obtain ⟨call, hcall, rfl⟩ := hp
  have hlogin (hne : ∀ email password, call ≠ .login email password) : ¬ c.IsLogin i := by
    rintro ⟨email, password, heq⟩
    rw [hcall] at heq
    exact hne email password (Option.some.inj heq)
  have hrun {α : Type} {p : Script α} (hp : p.Follows i (c.Permits i) (fun _ _ => True) []) :
      (p >>= fun _ => pure ()).Follows i (c.Permits i) (fun _ _ => True) [] :=
    follows_bind.mpr (hp.mono fun _ _ _ => trivial)
  cases call with
  | request r => exact hrun (request_follows (hlogin nofun) ⟨_, hcall, rfl⟩)
  | requestAs r read =>
    have hrequest : (c.session.request r).Follows i (c.Permits i) (fun _ _ => True) [] :=
      request_follows (hlogin nofun) ⟨_, hcall, rfl⟩
    exact hrun (follows_bind.mpr (hrequest.mono fun _ _ _ => trivial))
  | refresh =>
    exact hrun ((refresh_follows (hlogin nofun) fun _ => .inl hcall).mono fun _ _ _ => trivial)
  | login email password => exact hrun (login_follows hcall)
  | logout => exact hrun logout_follows

end SharedSession

end BearerSession
