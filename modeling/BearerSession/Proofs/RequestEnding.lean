import BearerSession.Proofs.MutationMessage
import Mathlib.Logic.ExistsUnique

namespace BearerSession

open GraphQL (Envelope Outgoing Request RequestError TransportError)

/-- The ways in which a request may end. -/
inductive Ending
  /-- The first attempt is not refused. -/
  | direct
  /-- It is refused, and a refresh is granted. -/
  | renewed
  /-- It is refused, and there is no refresh credential to exchange. -/
  | unrenewable
  /-- It is refused, and the exchange of the refresh credential fails. -/
  | failed
  deriving DecidableEq

/-- An answer that reports a want of credentials. -/
def Refuses (answer : Except TransportError Envelope) : Prop :=
  ∃ envelope errors, answer = .ok envelope ∧ envelope.errors = some errors ∧
    ∃ error ∈ errors, IsSentinel error.message

theorem refuses_iff {answer : Except TransportError Envelope} :
    Refuses answer ↔ isRefused answer = true := (isRefused_iff answer).symm

theorem not_refuses_iff {answer : Except TransportError Envelope} :
    ¬ Refuses answer ↔ isRefused answer = false := by
  rw [refuses_iff, Bool.not_eq_true]

/-- What a way to end says of a request: of its messages and redirections, of the store that it
finds and leaves, and of its result. The time of the store's first reading is number `n`. -/
def Ending.Describes (ending : Ending) (destination : Url) (options : SessionOptions)
    (redirects : Bool) (r : Request) (clock : Nat → Instant) (n : Nat) (m m' : MemoryStore)
    (out : List Outward) (result : Except RequestError (Option Json.Value)) : Prop :=
  let primary := attemptMessage r (m.headers (clock n) options.keys)
  match ending with
  | direct => ∃ answer,
      out = [.sent destination primary answer] ∧
      ¬ Refuses answer ∧ m' = m ∧ result = received answer
  | renewed => ∃ answer exchange exchanged token grant last,
      out = [.sent destination primary answer, .sent destination exchange exchanged,
        .sent destination (attemptMessage r (m'.headers (clock (n + 4)) options.keys)) last] ∧
      Refuses answer ∧
      m.get (clock (n + 1)) options.keys.refresh = some token ∧
      IsExchange exchange token ∧ granted exchanged = .ok grant ∧
      m'.entries.get? options.keys.access =
        some ⟨grant.access, (clock (n + 2)).plus options.ttl⟩ ∧
      m'.entries.get? options.keys.refresh = some ⟨token, (clock (n + 3)).plus options.ttl⟩ ∧
      (∀ key, key ≠ options.keys.access → key ≠ options.keys.refresh →
        m'.entries.get? key = m.entries.get? key) ∧
      result = received last
  | unrenewable => ∃ answer last,
      out = .sent destination primary answer :: redirection redirects ++
        [.sent destination (attemptMessage r .empty) last] ∧
      Refuses answer ∧
      m.get (clock (n + 1)) options.keys.refresh = none ∧
      (∀ key, m'.entries.get? key =
        if key = options.keys.access ∨ key = options.keys.refresh then none
        else m.entries.get? key) ∧
      result = received last
  | failed => ∃ answer exchange exchanged token error last,
      out = .sent destination primary answer :: .sent destination exchange exchanged ::
        redirection redirects ++ [.sent destination (attemptMessage r .empty) last] ∧
      Refuses answer ∧
      m.get (clock (n + 1)) options.keys.refresh = some token ∧
      IsExchange exchange token ∧ granted exchanged = .error error ∧
      (∀ key, m'.entries.get? key =
        if key = options.keys.access ∨ key = options.keys.refresh then none
        else m.entries.get? key) ∧
      result = received last

/-- The way to end that answers and the refresh credential decide. -/
def Ending.ofAnswers (held : Option Secret) : List Outward → Ending
  | .sent _ _ answer :: rest =>
    if isRefused answer then
      match held, rest with
      | none, _ => unrenewable
      | some _, .sent _ _ exchanged :: _ => if (granted exchanged).isOk then renewed else failed
      | some _, _ => failed
    else direct
  | _ => direct

section Ending

variable {ending : Ending} {destination : Url} {options : SessionOptions} {redirects : Bool}
  {r : Request} {clock : Nat → Instant} {n : Nat} {m m' : MemoryStore} {out : List Outward}
  {result : Except RequestError (Option Json.Value)}

namespace Ending.Describes

theorem eq_ofAnswers
    (h : ending.Describes destination options redirects r clock n m m' out result) :
    ending = ofAnswers (m.get (clock (n + 1)) options.keys.refresh) out := by
  cases ending with
  | direct =>
    obtain ⟨answer, hout, hr, _⟩ := h
    simp [ofAnswers, hout, not_refuses_iff.mp hr]
  | renewed =>
    obtain ⟨answer, exchange, exchanged, token, grant, last, hout, hr, hg, _, hx, _⟩ := h
    simp [ofAnswers, hout, refuses_iff.mp hr, hg, hx, Except.isOk, Except.toBool]
  | unrenewable =>
    obtain ⟨answer, last, hout, hr, hg, _⟩ := h
    simp [ofAnswers, hout, refuses_iff.mp hr, hg]
  | failed =>
    obtain ⟨answer, exchange, exchanged, token, error, last, hout, hr, hg, _, hx, _⟩ := h
    simp [ofAnswers, hout, refuses_iff.mp hr, hg, hx, Except.isOk, Except.toBool]

theorem existsUnique
    (h : ending.Describes destination options redirects r clock n m m' out result) :
    ∃! ending : Ending, ending.Describes destination options redirects r clock n m m' out result :=
  ⟨ending, h, fun _ ho => ho.eq_ofAnswers.trans h.eq_ofAnswers.symm⟩

/-- The only way to end is the one that the answers tell. -/
theorem of_existsUnique
    (h : ∃! ending : Ending,
      ending.Describes destination options redirects r clock n m m' out result)
    (told : ofAnswers (m.get (clock (n + 1)) options.keys.refresh) out = ending) :
    ending.Describes destination options redirects r clock n m m' out result := by
  obtain ⟨ending', hd, -⟩ := h
  rw [← told, ← hd.eq_ofAnswers]
  exact hd

end Ending.Describes

end Ending

/-- A run of a request over a store in memory has ended in some way. -/
def Ending.IsOf (ending : Ending) (destination : Url) (options : SessionOptions) (redirects : Bool)
    (r : Request) (clock : Nat → Instant) (n : Nat) (m : MemoryStore)
    (run : Except RequestError (Option Json.Value) × Scene) : Prop :=
  ∃ m', run.2.world.store = .memory m' ∧
    ending.Describes destination options redirects r clock n m m' run.2.outward run.1

section Retried

variable {e : Endpoint} {id : Nat} {destination : Url} {options : SessionOptions} {redirects : Bool}
  {r : Request} {clock : Nat → Instant} {n : Nat} {m : MemoryStore} {s s₁ : Scene}
  {answer : Except TransportError Envelope}
  (h₁ : (Auth.attempt Script.transport Script.log destination r
    (Script.session destination options redirects).hooks .primary).alone e.scenes id s =
      (received answer, s₁))
  (v₁ : s₁.Shows clock (n + 1) m
    [.sent destination (attemptMessage r (m.headers (clock n) options.keys)) answer])
  (refuses : Refuses answer)

include h₁ v₁ refuses

theorem request_unrenewable (missing : m.get (clock (n + 1)) options.keys.refresh = none) :
    Ending.unrenewable.IsOf destination options redirects r clock n m
      (((Script.session destination options redirects).request r).alone e.scenes id s) := by
  obtain ⟨s₂, v₂, hretry⟩ :=
    alone_request_retried e id destination options redirects r h₁ v₁ (refuses_iff.mp refuses)
  obtain ⟨s₃, h₃, v₃⟩ := alone_refresh_missing e id destination options redirects v₂ missing
  obtain ⟨last, s', h', v'⟩ := hretry h₃ v₃
  rw [headers_clear] at v'
  rw [h']
  exact ⟨_, v'.store, answer, last, v'.outward, refuses, missing, get?_clear m options.keys, rfl⟩

/-- With a refresh credential, the outcome of its exchange decides. -/
theorem request_exchanged (distinct : options.keys.access ≠ options.keys.refresh) {token : Secret}
    (live : m.get (clock (n + 1)) options.keys.refresh = some token) :
    ∃ ending : Ending, ending.IsOf destination options redirects r clock n m
      (((Script.session destination options redirects).request r).alone e.scenes id s) := by
  obtain ⟨s₂, v₂, hretry⟩ :=
    alone_request_retried e id destination options redirects r h₁ v₁ (refuses_iff.mp refuses)
  obtain ⟨exchanged, s₃, h₃, v₃⟩ := alone_refresh_live e id destination options redirects v₂ live
  have hcarried := isExchange_outgoing token
  cases hx : granted exchanged with
  | error error =>
    rw [hx] at h₃ v₃
    obtain ⟨last, s', h', v'⟩ := hretry h₃ v₃
    rw [headers_clear] at v'
    rw [h']
    refine ⟨.failed, _, v'.store, answer, _, exchanged, token, error, last, ?_, refuses, live,
      hcarried, hx, get?_clear m options.keys, rfl⟩
    rw [v'.outward]
    rfl
  | ok grant =>
    rw [hx] at h₃ v₃
    obtain ⟨last, s', h', v'⟩ := hretry h₃ v₃
    have hget := get?_renew m options clock (n + 2) grant.access token
    rw [h']
    refine ⟨.renewed, _, v'.store, answer, _, exchanged, token, grant, last, ?_, refuses, live,
      hcarried, hx, ?_, ?_, ?_, rfl⟩
    · rw [v'.outward]
      rfl
    · rw [hget, if_neg distinct, if_pos rfl]
    · rw [hget, if_pos rfl]
    · intro key ha hf
      rw [hget, if_neg hf, if_neg ha]

end Retried

/-- A request over a store in memory ends in exactly one of the four ways, whatever the store
holds, whatever the endpoint answers and whenever it is asked. -/
theorem request_ends_in_one_way (e : Endpoint) (id : Nat) (destination : Url)
    (options : SessionOptions) (redirects : Bool) (r : Request) (w : World) (m : MemoryStore)
    (distinct : options.keys.access ≠ options.keys.refresh) (memory : w.store = .memory m)
    (reliable : w.faults = []) :
    ∃ result m' s',
      ((Script.session destination options redirects).request r).alone e.scenes id ⟨w, []⟩ =
        (result, s') ∧
      s'.world.store = .memory m' ∧
      ∃! ending : Ending, ending.Describes destination options redirects r w.clock w.reads m m'
        s'.outward result := by
  have v₀ : (Scene.mk w []).Shows w.clock w.reads m [] := ⟨rfl, rfl, memory, reliable, rfl⟩
  obtain ⟨answer, s₁, h₁, v₁⟩ := alone_attempt e id destination options redirects v₀ r .primary
  have hends : ∃ ending : Ending, ending.IsOf destination options redirects r w.clock w.reads m
      (((Script.session destination options redirects).request r).alone e.scenes id ⟨w, []⟩) := by
    cases hr : isRefused answer with
    | false =>
      rw [alone_request_direct e id destination options redirects r h₁ hr]
      exact ⟨.direct, m, v₁.store, answer, v₁.outward, not_refuses_iff.mpr hr, rfl, rfl⟩
    | true =>
      have hrefuses := refuses_iff.mpr hr
      cases hg : m.get (w.clock (w.reads + 1)) options.keys.refresh with
      | none => exact ⟨.unrenewable, request_unrenewable h₁ v₁ hrefuses hg⟩
      | some token => exact request_exchanged h₁ v₁ hrefuses distinct hg
  obtain ⟨ending, m', hstore, hd⟩ := hends
  exact ⟨_, m', _, rfl, hstore, hd.existsUnique⟩

/-- An endpoint that refuses everybody. -/
def refusingEndpoint : Endpoint :=
  ⟨fun _ => .ok (.ofErrors [.ofMessage "Invalid token"]), fun _ => 0, fun w => w.replies⟩

/-- The theorem at a store with both credentials, over an endpoint that grants the exchange and over
one that refuses it, and at a store without a refresh credential. -/
theorem request_ends_in_one_way_when_refused :
    let destination : Url := { scheme := "http", path := .segments [] }
    let options : SessionOptions := { singleFlight := true }
    let r : Request := { query := "q" }
    let m := MemoryStore.ofValues [("accessToken", "a"), ("refreshToken", "r")] .least
    let lone := MemoryStore.ofValues [("accessToken", "a")] .least
    let ends (e : Endpoint) (w : World) (m : MemoryStore) (ending : Ending) : Prop :=
      options.keys.access ≠ options.keys.refresh ∧ w.store = .memory m ∧ w.faults = [] ∧
        ∃ result m' s',
          ((Script.session destination options true).request r).alone e.scenes 0 ⟨w, []⟩ =
            (result, s') ∧
          s'.world.store = .memory m' ∧
          ending.Describes destination options true r w.clock w.reads m m' s'.outward result
    ends .scripted (renewingWorld m) m .renewed ∧
      ends refusingEndpoint (stillWorld m .least) m .failed ∧
      ends refusingEndpoint (stillWorld lone .least) lone .unrenewable := by
  intro destination options r m lone ends
  have hends {e : Endpoint} {w : World} {m : MemoryStore} {ending : Ending}
      (memory : w.store = .memory m) (reliable : w.faults = [])
      (told : Ending.ofAnswers (m.get (w.clock (w.reads + 1)) options.keys.refresh)
        (((Script.session destination options true).request r).alone e.scenes 0 ⟨w, []⟩).2.outward =
          ending) : ends e w m ending := by
    have hdistinct : options.keys.access ≠ options.keys.refresh := by decide
    obtain ⟨result, m', s', hrun, hstore, hone⟩ :=
      request_ends_in_one_way e 0 destination options true r w m hdistinct memory reliable
    rw [hrun] at told
    exact ⟨hdistinct, memory, reliable, result, m', s', hrun, hstore, .of_existsUnique hone told⟩
  exact ⟨hends rfl rfl (by decide +kernel), hends rfl rfl (by decide +kernel),
    hends rfl rfl (by decide +kernel)⟩

end BearerSession
