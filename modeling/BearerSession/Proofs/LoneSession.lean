import BearerSession.Proofs.LoneCalls

namespace BearerSession

open GraphQL (Envelope Outgoing Request TransportError)

/-- The headers that the store gives to an attempt. -/
def MemoryStore.headers (m : MemoryStore) (now : Instant) (keys : CredentialKeys) : Headers :=
  match m.get now keys.access with
  | some access => bearer access
  | none => .empty

def attemptMessage (r : Request) (auth : Headers) : Outgoing :=
  Request.outgoing { r with headers := r.headers.overlay auth }

section Steps

variable (e : Endpoint) (id : Nat) {n : Nat} {s : Scene} {clock : Nat → Instant} {m : MemoryStore}
  {out : List Outward} (destination : Url) (options : SessionOptions) (redirects : Bool)

theorem alone_authHeaders (h : s.Shows clock n m out) :
    ∃ s', (Script.session destination options redirects).authHeaders.alone e.scenes id s =
        (m.headers (clock n) options.keys, s') ∧
      s'.Shows clock (n + 1) m out := by
  obtain ⟨s₁, h₁, v₁⟩ := alone_get e id h options.keys.access
  refine ⟨s₁, ?_, v₁⟩
  unfold Session.authHeaders bearerHeaders
  rw [bind_assoc]
  refine (Program.alone_bind_of h₁ _).trans ?_
  unfold MemoryStore.headers
  cases m.get (clock n) options.keys.access <;> rfl

theorem alone_attempt (h : s.Shows clock n m out) (r : Request) (kind : Attempt) :
    ∃ answer s', (Auth.attempt Script.transport Script.log destination r
          (Script.session destination options redirects).hooks kind).alone e.scenes id s =
        (received answer, s') ∧
      s'.Shows clock (n + 1) m
        (out ++ [.sent destination (attemptMessage r (m.headers (clock n) options.keys))
          answer]) := by
  obtain ⟨s₁, h₁, v₁⟩ := alone_authHeaders e id destination options redirects h
  obtain ⟨s₂, h₂, v₂⟩ := alone_log e id v₁ ⟨.debug, "Sending " ++ kind.name ++ " attempt to " ++
    destination.href ++ " (authorized: " ++
    (if (m.headers (clock n) options.keys).isEmpty then "false" else "true") ++ ")"⟩
  obtain ⟨answer, s₃, h₃, v₃⟩ := alone_send e id v₂ destination
    (attemptMessage r (m.headers (clock n) options.keys))
  refine ⟨answer, s₃, ?_, v₃⟩
  unfold Auth.attempt
  refine (Program.alone_bind_of h₁ _).trans ((Program.alone_bind_of h₂ _).trans ?_)
  rw [graphql_send_eq, map_eq_pure_bind]
  exact Program.alone_bind_of h₃ _

theorem alone_refresh_missing (h : s.Shows clock n m out)
    (dead : m.get (clock n) options.keys.refresh = none) :
    ∃ s', (Script.session destination options redirects).refresh.alone e.scenes id s =
        (.error .missingRefreshToken, s') ∧
      s'.Shows clock (n + 1) m out := by
  obtain ⟨s₁, h₁, v₁⟩ := alone_get e id h options.keys.refresh
  rw [dead] at h₁
  exact ⟨s₁, Program.alone_bind_of h₁ _, v₁⟩

/-- What a refresh makes of the store, from the time of its first write on. -/
def MemoryStore.renew (m : MemoryStore) (options : SessionOptions) (clock : Nat → Instant) (n : Nat)
    (access token : Secret) : MemoryStore :=
  (m.set (clock n) options.keys.access access options.ttl).set (clock (n + 1)) options.keys.refresh
    token options.ttl

theorem alone_refresh_live (h : s.Shows clock n m out) {token : Secret}
    (live : m.get (clock n) options.keys.refresh = some token) :
    ∃ answer s', (Script.session destination options redirects).refresh.alone e.scenes id s =
        (granted answer, s') ∧
      match granted answer with
      | .ok grant =>
        s'.Shows clock (n + 3) (m.renew options clock (n + 1) grant.access token)
          (out ++ [.sent destination (refreshRequest token).outgoing answer])
      | .error _ =>
        s'.Shows clock (n + 1) m
          (out ++ [.sent destination (refreshRequest token).outgoing answer]) := by
  obtain ⟨s₁, h₁, v₁⟩ := alone_get e id h options.keys.refresh
  obtain ⟨s₂, h₂, v₂⟩ := alone_log e id v₁
    ⟨.debug, "Exchanging refresh token for a new access token"⟩
  obtain ⟨answer, s₃, h₃, v₃⟩ := alone_exchange e id v₂ destination token
  rw [live] at h₁
  refine ⟨answer, ?_⟩
  cases hg : granted answer with
  | error error =>
    rw [hg] at h₃
    refine ⟨s₃, ?_, v₃⟩
    exact (Program.alone_bind_of h₁ _).trans ((Program.alone_bind_of h₂ _).trans
      (Program.alone_bind_of h₃ _))
  | ok grant =>
    rw [hg] at h₃
    obtain ⟨s₄, h₄, v₄⟩ := alone_set e id v₃ options.keys.access grant.access options.ttl
    obtain ⟨s₅, h₅, v₅⟩ := alone_set e id v₄ options.keys.refresh token options.ttl
    obtain ⟨s₆, h₆, v₆⟩ := alone_log e id v₅ ⟨.info, "Refreshed access token"⟩
    refine ⟨s₆, ?_, v₆⟩
    calc (Script.session destination options redirects).refresh.alone e.scenes id s
        = _ := (Program.alone_bind_of h₁ _).trans ((Program.alone_bind_of h₂ _).trans
          (Program.alone_bind_of h₃ _))
      _ = _ := (Program.alone_bind_of h₄ _).trans (Program.alone_bind_of h₅ _)
      _ = (.ok grant, s₆) := Program.alone_bind_of h₆ _

/-- With or without a gate, recovery is one refresh from a scene that looks the same. -/
theorem alone_recover (h : s.Shows clock n m out) :
    ∃ s₁, s₁.Shows clock n m out ∧ ∀ {outcome s₂ n' m' out'},
      (Script.session destination options redirects).refresh.alone e.scenes id s₁ = (outcome, s₂) →
      s₂.Shows clock n' m' out' →
      ∃ s', (Script.session destination options redirects).recover.alone e.scenes id s =
          ((outcome.map fun _ => ()).mapError fun e => e.message :: e.sources, s') ∧
        s'.Shows clock n' m' out' := by
  cases hg : options.singleFlight with
  | false =>
    refine ⟨s, h, fun {outcome s₂ n' m' out'} h₂ v₂ => ⟨s₂, ?_, v₂⟩⟩
    unfold Session.recover
    simp only [Script.session, hg]
    exact Program.alone_map_of (Program.alone_map_of h₂ _) _
  | true =>
    obtain ⟨s₁, v₁, hrun⟩ := alone_gate_run e id h
      (Script.session destination options redirects).refreshOutcome
    refine ⟨s₁, v₁, fun {outcome s₂ n' m' out'} h₂ v₂ => ?_⟩
    obtain ⟨s', h', v'⟩ := hrun (Program.alone_map_of h₂ _) v₂
    refine ⟨s', ?_, v'⟩
    unfold Session.recover
    simp only [Script.session, hg]
    exact Program.alone_map_of h' _

/-- The redirection that follows a logout, where there is one. -/
def redirection (redirects : Bool) : List Outward := if redirects then [.redirected] else []

def MemoryStore.clear (m : MemoryStore) (keys : CredentialKeys) : MemoryStore :=
  (m.remove keys.access).remove keys.refresh

theorem alone_logout (h : s.Shows clock n m out) :
    ∃ s', (Script.session destination options redirects).logout.alone e.scenes id s = (.ok (), s') ∧
      s'.Shows clock (n + 2) (m.clear options.keys)
        (out ++ redirection redirects) := by
  obtain ⟨s₁, h₁, v₁⟩ := alone_remove e id h options.keys.access
  obtain ⟨s₂, h₂, v₂⟩ := alone_remove e id v₁ options.keys.refresh
  obtain ⟨s₃, h₃, v₃⟩ := alone_log e id v₂ ⟨.info, "Cleared stored credentials"⟩
  cases redirects with
  | false =>
    rw [redirection, if_neg Bool.false_ne_true, List.append_nil]
    refine ⟨s₃, ?_, v₃⟩
    exact (Program.alone_bind_of h₁ _).trans ((Program.alone_bind_of h₂ _).trans
      (Program.alone_bind_of h₃ _))
  | true =>
    obtain ⟨s₄, h₄, v₄⟩ := alone_redirect e id v₃
    refine ⟨s₄, ?_, v₄⟩
    exact (Program.alone_bind_of h₁ _).trans ((Program.alone_bind_of h₂ _).trans
      ((Program.alone_bind_of h₃ _).trans (Program.alone_bind_of h₄ _)))

theorem alone_invalidate (h : s.Shows clock n m out) :
    ∃ s', (Script.session destination options redirects).invalidate.alone e.scenes id s = ((), s') ∧
      s'.Shows clock (n + 2) (m.clear options.keys)
        (out ++ redirection redirects) := by
  obtain ⟨s', h', v'⟩ := alone_logout e id destination options redirects h
  exact ⟨s', Program.alone_bind_of h' _, v'⟩

/-- A request that is not refused comes to what its first answer says. -/
theorem alone_request_direct (r : Request) {answer : Except TransportError Envelope} {s₁ : Scene}
    (h₁ : (Auth.attempt Script.transport Script.log destination r
      (Script.session destination options redirects).hooks .primary).alone e.scenes id s =
        (received answer, s₁))
    (fine : isRefused answer = false) :
    ((Script.session destination options redirects).request r).alone e.scenes id s =
      (received answer, s₁) := by
  refine (Program.alone_bind_of h₁ _).trans ?_
  unfold isRefused at fine
  cases hr : received answer with
  | ok data => rfl
  | error failure =>
    simp only [hr, Option.isSome_eq_false_iff, Option.isNone_iff_eq_none] at fine
    simp only [fine]
    rfl

/-- A refused request warns, recovers, and comes to what its retry comes to. -/
theorem alone_request_refused (r : Request) {answer : Except TransportError Envelope} {s₁ : Scene}
    (h₁ : (Auth.attempt Script.transport Script.log destination r
      (Script.session destination options redirects).hooks .primary).alone e.scenes id s =
        (received answer, s₁))
    (refused : isRefused answer = true) :
    ∃ line, ((Script.session destination options redirects).request r).alone e.scenes id s =
      (do
        Script.log.write line
        match ← (Script.session destination options redirects).recover with
        | .ok () => pure ()
        | .error f =>
          Script.log.warn ("Credential recovery failed: " ++ f.line)
          (Script.session destination options redirects).invalidate
        Auth.attempt Script.transport Script.log destination r
          (Script.session destination options redirects).hooks .retry).alone e.scenes id s₁ := by
  unfold isRefused at refused
  cases hr : received answer with
  | ok data => simp [hr] at refused
  | error failure =>
    simp only [hr] at refused h₁
    obtain ⟨reason, hreason⟩ := Option.isSome_iff_exists.mp refused
    refine ⟨⟨.warn, "Request to " ++ destination.href ++ " rejected (" ++ reason.message ++
      "), recovering credentials"⟩, ?_⟩
    refine (Program.alone_bind_of h₁ _).trans ?_
    simp only [hreason]
    rfl

/-- A refused request refreshes from a scene that looks the same, and sends its retry after that:
with what the refresh left, or after a logout where it failed. -/
theorem alone_request_retried (r : Request) {answer : Except TransportError Envelope} {s₁ : Scene}
    (h₁ : (Auth.attempt Script.transport Script.log destination r
      (Script.session destination options redirects).hooks .primary).alone e.scenes id s =
        (received answer, s₁))
    (v₁ : s₁.Shows clock n m out) (refused : isRefused answer = true) :
    ∃ s₂, s₂.Shows clock n m out ∧ ∀ {outcome s₃ n' m' out'},
      (Script.session destination options redirects).refresh.alone e.scenes id s₂ = (outcome, s₃) →
      s₃.Shows clock n' m' out' →
      ∃ last s', ((Script.session destination options redirects).request r).alone e.scenes id s =
          (received last, s') ∧
        match outcome with
        | .ok _ =>
          s'.Shows clock (n' + 1) m' (out' ++
            [.sent destination (attemptMessage r (m'.headers (clock n') options.keys)) last])
        | .error _ =>
          s'.Shows clock (n' + 3) (m'.clear options.keys) (out' ++ redirection redirects ++
            [.sent destination (attemptMessage r
              ((m'.clear options.keys).headers (clock (n' + 2)) options.keys)) last]) := by
  obtain ⟨line, hreq⟩ := alone_request_refused e id destination options redirects r h₁ refused
  obtain ⟨s₁', hline, v₁'⟩ := alone_log e id v₁ line
  obtain ⟨s₂, v₂, hrecover⟩ := alone_recover e id destination options redirects v₁'
  refine ⟨s₂, v₂, fun {outcome s₃ n' m' out'} h₃ v₃ => ?_⟩
  obtain ⟨s₄, h₄, v₄⟩ := hrecover h₃ v₃
  rw [hreq, Program.alone_bind_of hline, Program.alone_bind_of h₄]
  cases outcome with
  | ok grant =>
    obtain ⟨last, s', h', v'⟩ := alone_attempt e id destination options redirects v₄ r .retry
    exact ⟨last, s', h', v'⟩
  | error error =>
    obtain ⟨s₅, h₅, v₅⟩ := alone_log e id v₄ ⟨.warn, "Credential recovery failed: " ++
      Failure.line (error.message :: error.sources)⟩
    obtain ⟨s₆, h₆, v₆⟩ := alone_invalidate e id destination options redirects v₅
    obtain ⟨last, s', h', v'⟩ := alone_attempt e id destination options redirects v₆ r .retry
    refine ⟨last, s', ?_, v'⟩
    exact (Program.alone_bind_of h₅ _).trans ((Program.alone_bind_of h₆ _).trans h')

end Steps

theorem get?_clear (m : MemoryStore) (keys : CredentialKeys) (key : String) :
    (m.clear keys).entries.get? key =
      if key = keys.access ∨ key = keys.refresh then none else m.entries.get? key := by
  by_cases ha : key = keys.access <;> by_cases hr : key = keys.refresh <;>
    simp [MemoryStore.clear, MemoryStore.remove, ha, hr]

theorem headers_clear (m : MemoryStore) (keys : CredentialKeys) (now : Instant) :
    (m.clear keys).headers now keys = .empty := by
  have hn : (m.clear keys).entries.get? keys.access = none := by simp [get?_clear]
  simp [MemoryStore.headers, MemoryStore.get, hn, liveValue]

theorem get?_renew (m : MemoryStore) (options : SessionOptions) (clock : Nat → Instant) (n : Nat)
    (access token : Secret) (key : String) :
    (m.renew options clock n access token).entries.get? key =
      if key = options.keys.refresh then some ⟨token, (clock (n + 1)).plus options.ttl⟩
      else if key = options.keys.access then some ⟨access, (clock n).plus options.ttl⟩
      else m.entries.get? key := by
  simp [MemoryStore.renew, MemoryStore.set, StoredEntry.stamp]

end BearerSession
