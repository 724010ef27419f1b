import BearerSession.Proofs.ProblemReading
import BearerSession.Proofs.SessionRules
import BearerSession.Proofs.WireTypes

namespace BearerSession

open GraphQL (Envelope MutationResult Problem TransportError)
open Json (Value Reader ReadError bind_eq_ok_iff)
open Json.Node (ofValue)
open SortedMap (find?)

section Credentials

variable {entries : List (String × Value)}

/-- The text of a field that must be there. -/
def textField? (name : String) (entries : List (String × Value)) : Option String :=
  (find? name entries).bind Value.text?

/-- The token type that an object names, or the default. -/
def tokenType? (entries : List (String × Value)) : Option String :=
  (find? "tokenType" entries).elim (some defaultTokenType) Value.text?

/-- The access credential that an object grants, whatever other fields it has. -/
def AccessGrant.ofFields? (entries : List (String × Value)) : Option AccessGrant := do
  return ⟨⟨← textField? "accessToken" entries⟩, ← tokenType? entries⟩

def TokenPair.ofFields? (entries : List (String × Value)) : Option TokenPair := do
  return ⟨⟨← textField? "accessToken" entries⟩, ⟨← textField? "refreshToken" entries⟩,
    ← tokenType? entries⟩

theorem Secret.read_ofValue (v : Value) :
    (Secret.read .buffered (ofValue v)).toOption = v.text?.map Secret.mk := by
  rw [← Json.readString_ofValue .buffered v, Secret.read]
  cases Json.readString .buffered (ofValue v) <;> rfl

/-- A field may be missing, or hold something that is no text, or a text. -/
theorem field_cases (name : String) (entries : List (String × Value)) :
    find? name entries = none ∨ (∃ v, find? name entries = some v ∧ v.text? = none) ∨
      ∃ v s, find? name entries = some v ∧ v.text? = some s := by
  cases find? name entries with
  | none => exact .inl rfl
  | some v =>
    cases hv : v.text? with
    | none => exact .inr (.inl ⟨v, rfl, hv⟩)
    | some s => exact .inr (.inr ⟨v, s, rfl, hv⟩)

theorem AccessGrant.read_object (distinct : entries.Pairwise fun a b => a.1 ≠ b.1) :
    (AccessGrant.read .buffered (ofValue (.object entries))).toOption =
      AccessGrant.ofFields? entries := by
  have hapart : AccessGrant.fields.Pairwise Json.Field.Apart := by
    simp [AccessGrant.fields, Json.Field.of_apart]
  rw [AccessGrant.read, Json.readRecord_eq_lookUps rfl hapart distinct (by decide)]
  simp only [AccessGrant.fields, Json.Field.lookUps, Json.Field.of_lookUp, Secret.read_ofValue,
    Json.readString_ofValue, AccessGrant.ofFields?, textField?, tokenType?]
  rcases field_cases "accessToken" entries with ha | ⟨v, ha, hv⟩ | ⟨v, s, ha, hv⟩ <;>
    rcases field_cases "tokenType" entries with ht | ⟨w, ht, hw⟩ | ⟨w, s', ht, hw⟩ <;>
    simp only [*, Option.elim_none, Option.elim_some, Option.map_none, Option.map_some,
      Option.bind_none, Option.bind_some] <;> rfl

theorem TokenPair.read_object (distinct : entries.Pairwise fun a b => a.1 ≠ b.1) :
    (TokenPair.read .buffered (ofValue (.object entries))).toOption =
      TokenPair.ofFields? entries := by
  have hapart : TokenPair.fields.Pairwise Json.Field.Apart := by
    simp [TokenPair.fields, Json.Field.of_apart]
  rw [TokenPair.read, Json.readRecord_eq_lookUps rfl hapart distinct (by decide)]
  simp only [TokenPair.fields, Json.Field.lookUps, Json.Field.of_lookUp, Secret.read_ofValue,
    Json.readString_ofValue, TokenPair.ofFields?, textField?, tokenType?]
  rcases field_cases "accessToken" entries with ha | ⟨v, ha, hv⟩ | ⟨v, s, ha, hv⟩ <;>
    rcases field_cases "refreshToken" entries with hr | ⟨u, hr, hu⟩ | ⟨u, s', hr, hu⟩ <;>
    rcases field_cases "tokenType" entries with ht | ⟨w, ht, hw⟩ | ⟨w, s'', ht, hw⟩ <;>
    simp only [*, Option.elim_none, Option.elim_some, Option.map_none, Option.map_some,
      Option.bind_none, Option.bind_some] <;> rfl

end Credentials

section Data

variable {name : String} {payload data : Value} {entries : List (String × Value)}

/-- Data that have a value as the payload of a mutation: an object with a field of its name, or an
array of nothing else. -/
inductive Carries (name : String) (payload : Value) : Value → Prop
  | field {entries : List (String × Value)} : find? name entries = some payload →
      Carries name payload (.object entries)
  | item : Carries name payload (.array [payload])

theorem Carries.isOrdered (h : Carries name payload data) (ordered : data.IsOrdered) :
    payload.IsOrdered := by
  cases h with
  | field h => exact Value.areOrderedFields_iff.mp ordered.2 _ (SortedMap.find?_eq_some_mem h)
  | item => exact ordered.1

/-- Of data that are a record of the payload alone, only the payload matters. -/
theorem Carries.readRecord {α β δ : Type} {shape : String} {get : δ → Option α} {set : α → δ → δ}
    {read : Reader α} {draft : δ} {finish : δ → Except ReadError β} (h : Carries name payload data)
    (ordered : data.IsOrdered) (unset : get draft = none) :
    (Json.readRecord shape [.of name false get set read] draft finish .memory
        (ofValue data)).toOption =
      (read .memory (ofValue payload)).toOption.bind fun a => (finish (set a draft)).toOption := by
  cases h with
  | field h =>
    have hunset : ∀ f ∈ [Json.Field.of name false get set read], f.isSet draft = false := by
      simp [Json.Field.of, unset]
    rw [Json.readRecord_eq_lookUps rfl (List.pairwise_singleton _ _)
      (SortedMap.distinct_of_ascending ordered.1) hunset]
    simp only [Json.Field.lookUps, Json.Field.of_lookUp, h, Option.elim_some]
    cases (read .memory (ofValue payload)).toOption <;> rfl
  | item =>
    rw [Json.readRecord_eq_readInOrder rfl]
    simp only [Json.Field.readInOrder, Json.Field.of_read?]
    cases (read .memory (ofValue payload)).toOption <;> rfl

theorem LoginData.read_carried (h : Carries "login" (.object entries) data)
    (ordered : data.IsOrdered) :
    (LoginData.read .memory (ofValue data)).toOption =
      (MutationResult.ofFields? (TokenPair.ofFields? entries) entries).map LoginData.mk := by
  have hpayload := h.isOrdered ordered
  rw [LoginData.read, LoginData.fields, h.readRecord ordered rfl,
    MutationResult.read_object_toOption _ (.of_isOrdered hpayload),
    TokenPair.read_object (SortedMap.distinct_of_ascending hpayload.1)]
  cases MutationResult.ofFields? (TokenPair.ofFields? entries) entries <;> rfl

theorem RefreshData.read_carried (h : Carries "refreshToken" (.object entries) data)
    (ordered : data.IsOrdered) :
    (RefreshData.read .memory (ofValue data)).toOption =
      (MutationResult.ofFields? (AccessGrant.ofFields? entries) entries).map RefreshData.mk := by
  have hpayload := h.isOrdered ordered
  rw [RefreshData.read, RefreshData.fields, h.readRecord ordered rfl,
    MutationResult.read_object_toOption _ (.of_isOrdered hpayload),
    AccessGrant.read_object (SortedMap.distinct_of_ascending hpayload.1)]
  cases MutationResult.ofFields? (AccessGrant.ofFields? entries) entries <;> rfl

end Data

/-- A reply whose data carry an object as the payload of a mutation. The data of every reply are
ordered: `Reply.data_isOrdered`. -/
structure Answered (name : String) (entries : List (String × Value)) (envelope : Envelope)
    (data : Value) : Prop where
  given : envelope.data = some data
  ordered : data.IsOrdered
  carries : Carries name (.object entries) data

section Replies

variable {name : String} {entries : List (String × Value)} {envelope : Envelope} {data : Value}

theorem received_given (given : envelope.data = some data) :
    (received (.ok envelope)).toOption =
      if envelope.split.isOk then some (some data) else none := by
  obtain ⟨data?, errors?⟩ := envelope
  cases given
  rcases errors? with _ | _ | ⟨error, errors⟩ <;> rfl

theorem decode_received {α : Type} (read : Reader α) (given : envelope.data = some data) :
    ((received (.ok envelope)).bind (GraphQL.decode read)).toOption =
      if envelope.split.isOk then (read .memory (ofValue data)).toOption else none := by
  have hdecode : (GraphQL.decode read (some data)).toOption =
      (read .memory (ofValue data)).toOption := by
    rw [GraphQL.decode, Option.getD_some, Json.readMemory]
    cases read .memory (ofValue data) <;> rfl
  refine (Json.toOption_bind _ _).trans ?_
  rw [received_given given, ← hdecode]
  split <;> rfl

/-- A result that is read gives its payload unless it lists problems. -/
theorem ofFields?_split_iff {α : Type} {payload : Option α} {a : α} :
    (MutationResult.ofFields? payload entries).bind (fun r => r.split.toOption) = some a ↔
      MutationResult.problems? entries = none ∧ payload = some a := by
  unfold MutationResult.ofFields?
  cases MutationResult.problems? entries with
  | some problems => simp [MutationResult.split, Except.toOption]
  | none => cases payload <;> simp [MutationResult.split, Except.toOption]

/-- Whether an answer with something for problems is taken to grant something all the same: it
reports no errors, what it has for problems is no list of problems, and the payload is complete. -/
structure Overlooks {α : Type} (envelope : Envelope) (problems : Value) (payload : Option α)
    (granted : α) : Prop where
  sound : envelope.split.isOk = true
  unread : problems.list? Problem.ofValue? = none
  complete : payload = some granted

theorem overlooks_iff {α : Type} {problems : Value} {payload : Option α} {granted : α}
    (present : find? "problems" entries = some problems) :
    Overlooks envelope problems payload granted ↔ envelope.split.isOk = true ∧
      (MutationResult.ofFields? payload entries).bind (fun r => r.split.toOption) =
        some granted := by
  rw [ofFields?_split_iff, MutationResult.problems?, present]
  exact ⟨fun h => ⟨h.1, h.2, h.3⟩, fun h => ⟨h.1, h.2.1, h.2.2⟩⟩

theorem loginGrant_eq_ok_iff {problems : Value} {pair : TokenPair}
    (h : Answered "login" entries envelope data)
    (present : find? "problems" entries = some problems) :
    loginGrant (.ok envelope) = .ok pair ↔
      Overlooks envelope problems (TokenPair.ofFields? entries) pair := by
  have hgrant : (loginGrant (.ok envelope)).toOption =
      ((received (.ok envelope)).bind (GraphQL.decode LoginData.read)).toOption.bind fun data =>
        data.result.split.toOption := by
    unfold loginGrant
    cases (received (.ok envelope)).bind (GraphQL.decode LoginData.read) with
    | error e => rfl
    | ok data =>
      obtain ⟨result⟩ := data
      cases result <;> rfl
  rw [← Json.toOption_eq_some_iff, hgrant, decode_received _ h.given,
    LoginData.read_carried h.carries h.ordered, overlooks_iff present]
  cases envelope.split.isOk with
  | false => simp
  | true =>
    simp only [if_true, true_and, Option.bind_map]
    rfl

theorem granted_eq_ok_iff {problems : Value} {grant : AccessGrant}
    (h : Answered "refreshToken" entries envelope data)
    (present : find? "problems" entries = some problems) :
    granted (.ok envelope) = .ok grant ↔
      Overlooks envelope problems (AccessGrant.ofFields? entries) grant := by
  have hgrant : (granted (.ok envelope)).toOption =
      ((received (.ok envelope)).bind (GraphQL.decode RefreshData.read)).toOption.bind fun data =>
        data.result.split.toOption := by
    unfold granted
    cases (received (.ok envelope)).bind (GraphQL.decode RefreshData.read) with
    | error e => rfl
    | ok data =>
      obtain ⟨result⟩ := data
      cases result <;> rfl
  rw [← Json.toOption_eq_some_iff, hgrant, decode_received _ h.given,
    RefreshData.read_carried h.carries h.ordered, overlooks_iff present]
  cases envelope.split.isOk with
  | false => simp
  | true =>
    simp only [if_true, true_and, Option.bind_map]
    rfl

end Replies

namespace Reply

/-- The data of every reply have the fields of their objects in order. -/
theorem data_isOrdered {r : Reply} {envelope : Envelope} {data : Value}
    (answered : r.answer = .ok envelope) (given : envelope.data = some data) : data.IsOrdered := by
  unfold answer at answered
  split at answered
  next envelope' hread =>
    cases answered
    have hroom : (Json.Origin.text Json.depthLimit).Allows 5 := show 5 ≤ 127 by decide
    exact (Envelope.received hroom (Json.of_readText hread)).sound.1 data given
  next => cases answered

end Reply

namespace Session

section Steps

variable {m : Type → Type} [Monad m] [LawfulMonad m]

/-- What a login does with the credentials that it was granted. -/
def keepPair (s : Session m) (email : String) (pair : TokenPair) :
    m (Except LoginError TokenPair) := do
  match ← s.store.storePair s.keys pair s.ttl with
  | .error e => return .error (.store e)
  | .ok () =>
    s.log.info ("Logged in as " ++ email)
    return .ok pair

theorem login_eq (s : Session m) (email : String) (password : Secret) :
    s.login email password =
      s.transport.send s.destination (loginRequest email password).outgoing >>= fun answer =>
        match loginGrant answer with
        | .error e => return .error e
        | .ok pair => s.keepPair email pair := by
  unfold Session.login BearerSession.login GraphQL.sendAs
  rw [graphql_send_eq]
  simp only [bind_map_left, bind_assoc, pure_bind]
  refine bind_congr fun answer => ?_
  simp only [loginGrant]
  cases (received answer).bind (GraphQL.decode LoginData.read) with
  | error e => rfl
  | ok data => dsimp only; cases data.result.split <;> rfl

end Steps

section Runs

variable {σ : Type} (s : Session (StateM σ)) {answer : Except TransportError Envelope}

theorem login_run {email : String} {password : Secret} {before after : σ}
    (replied : (s.transport.send s.destination (loginRequest email password).outgoing).run before =
      (answer, after)) :
    (s.login email password).run before =
      match loginGrant answer with
      | .error e => (.error e, after)
      | .ok pair => (s.keepPair email pair).run after := by
  rw [login_eq, StateT.run_bind, replied]
  show (match loginGrant answer with
    | .error e => return .error e
    | .ok pair => s.keepPair email pair : StateM σ (Except LoginError TokenPair)).run after = _
  cases loginGrant answer <;> rfl

theorem refresh_run {token : Secret} {start read after : σ}
    (held : (s.store.get s.keys.refresh).run start = (.ok (some token), read))
    (replied : (s.transport.send s.destination (refreshRequest token).outgoing).run
      ((s.log.debug "Exchanging refresh token for a new access token").run read).2 =
        (answer, after)) :
    s.refresh.run start =
      match granted answer with
      | .error e => (.error e, after)
      | .ok grant => (s.keepGrant token grant).run after := by
  rw [refresh_eq, StateT.run_bind, held]
  show ((s.log.debug "Exchanging refresh token for a new access token" >>= fun _ =>
    s.transport.send s.destination (refreshRequest token).outgoing >>= _).run read : Id _) = _
  rw [StateT.run_bind]
  show ((s.transport.send s.destination (refreshRequest token).outgoing >>= _).run
    ((s.log.debug "Exchanging refresh token for a new access token").run read).2 : Id _) = _
  rw [StateT.run_bind, replied]
  show (match granted answer with
    | .error e => return .error e
    | .ok grant => s.keepGrant token grant : StateM σ (Except RefreshError AccessGrant)).run
      after = _
  cases granted answer <;> rfl

end Runs

end Session

/-- A reply to a login or a refresh whose payload has a field for problems is refused, whatever else
it has, and nothing is done after it. The exception is a field that is no list of problems beside
complete credentials: these are taken. -/
theorem problems_refused {σ : Type} (s : Session (StateM σ)) {entries : List (String × Value)}
    {problems data : Value} {envelope : Envelope}
    (present : find? "problems" entries = some problems) :
    (∀ email password (before after : σ), Answered "login" entries envelope data →
      (s.transport.send s.destination (loginRequest email password).outgoing).run before =
        (.ok envelope, after) →
      ((∀ pair, ¬ Overlooks envelope problems (TokenPair.ofFields? entries) pair) →
        ∃ error, (s.login email password).run before = (.error error, after)) ∧
      ∀ pair, Overlooks envelope problems (TokenPair.ofFields? entries) pair →
        (s.login email password).run before = (s.keepPair email pair).run after) ∧
    ∀ token (start read after : σ), Answered "refreshToken" entries envelope data →
      (s.store.get s.keys.refresh).run start = (.ok (some token), read) →
      (s.transport.send s.destination (refreshRequest token).outgoing).run
        ((s.log.debug "Exchanging refresh token for a new access token").run read).2 =
          (.ok envelope, after) →
      ((∀ grant, ¬ Overlooks envelope problems (AccessGrant.ofFields? entries) grant) →
        ∃ error, s.refresh.run start = (.error error, after)) ∧
      ∀ grant, Overlooks envelope problems (AccessGrant.ofFields? entries) grant →
        s.refresh.run start = (s.keepGrant token grant).run after := by
  constructor
  · intro email password before after answered replied
    rw [s.login_run replied]
    refine ⟨fun hrefused => ?_, fun pair htaken => ?_⟩
    · cases hgrant : loginGrant (.ok envelope) with
      | error e => exact ⟨e, rfl⟩
      | ok pair =>
        exact absurd ((loginGrant_eq_ok_iff answered present).mp hgrant) (hrefused pair)
    · rw [(loginGrant_eq_ok_iff answered present).mpr htaken]
  · intro token start read after answered held replied
    rw [s.refresh_run held replied]
    refine ⟨fun hrefused => ?_, fun grant htaken => ?_⟩
    · cases hgrant : granted (.ok envelope) with
      | error e => exact ⟨e, rfl⟩
      | ok grant =>
        exact absurd ((granted_eq_ok_iff answered present).mp hgrant) (hrefused grant)
    · rw [(granted_eq_ok_iff answered present).mpr htaken]

/-- An answer with one payload for both mutations. -/
def twofold (payload : Value) : Envelope :=
  .ofData (.object [("login", payload), ("refreshToken", payload)])

/-- A session over a store in memory whose endpoint always gives one answer. -/
def replyingSession (envelope : Envelope) : Session (StateM MemoryStore) where
  transport := ⟨fun _ _ => return .ok envelope⟩
  destination := { scheme := "http", path := .segments [] }
  store :=
    { get := fun key => do return .ok ((← get).get .least key)
      set := fun key value ttl => do modify (·.set .least key value ttl); return .ok ()
      remove := fun key => do modify (·.remove key); return .ok () }
  log := ⟨fun _ => pure ()⟩
  redirect := pure ()
  keys := {}
  ttl := defaultTtl
  gate := none

/-- Both credentials, with something for problems beside them. -/
def credentialsBeside (problems : Value) : List (String × Value) :=
  [("accessToken", .string "a"), ("problems", problems), ("refreshToken", .string "r")]

/-- The theorem where a problem is listed beside both credentials. -/
theorem problems_refused_of_listed :
    let problems : Value := .array [.object [("__typename", .string "InvalidRefreshTokenProblem"),
      ("message", .string "revoked")]]
    let s := replyingSession (twofold (.object (credentialsBeside problems)))
    let m := MemoryStore.ofValues [("refreshToken", "old")] .least
    (∃ error, (s.login "user" ⟨"secret"⟩).run m = (.error error, m)) ∧
      ∃ error, s.refresh.run m = (.error error, m) := by
  intro problems s m
  have hordered : (Value.object [("login", .object (credentialsBeside problems)),
      ("refreshToken", .object (credentialsBeside problems))]).IsOrdered := by
    simp only [Value.IsOrdered, Value.AreOrderedFields, Value.AreOrdered, credentialsBeside,
      problems, and_true, true_and]
    decide
  have hlisted : problems.list? Problem.ofValue? = some [.invalidRefreshToken "revoked"] := rfl
  have hunread {α : Type} (payload : Option α) (granted : α) : ¬ Overlooks
      (twofold (.object (credentialsBeside problems))) problems payload granted := by
    intro h
    cases hlisted.symm.trans h.unread
  obtain ⟨hlogin, hrefresh⟩ := problems_refused s
    (show find? "problems" (credentialsBeside problems) = some problems from rfl)
  exact ⟨(hlogin _ _ _ _ ⟨rfl, hordered, .field rfl⟩ rfl).1 (hunread _),
    (hrefresh _ _ _ _ ⟨rfl, hordered, .field rfl⟩ rfl rfl).1 (hunread _)⟩

/-- Null in the place of problems is overlooked: the credentials beside it are stored. -/
theorem null_problems_granted :
    let s := replyingSession (twofold (.object (credentialsBeside .null)))
    let m := MemoryStore.ofValues [("refreshToken", "old")] .least
    (∃ m', (s.login "user" ⟨"secret"⟩).run m = (.ok ⟨⟨"a"⟩, ⟨"r"⟩, "Bearer"⟩, m') ∧
      m'.get .least "accessToken" = some ⟨"a"⟩ ∧ m'.get .least "refreshToken" = some ⟨"r"⟩) ∧
    ∃ m', s.refresh.run m = (.ok ⟨⟨"a"⟩, "Bearer"⟩, m') ∧
      m'.get .least "accessToken" = some ⟨"a"⟩ :=
  ⟨⟨_, rfl, by decide +kernel, by decide +kernel⟩, _, rfl, by decide +kernel⟩

end BearerSession
