import BearerSession.Proofs.Scene

namespace BearerSession

open GraphQL (Envelope Outgoing Request RequestError Transport TransportError)

section Outcomes

variable {m : Type → Type} [Monad m] [LawfulMonad m]

/-- What a request comes to by the answer to it. -/
def received (answer : Except TransportError Envelope) : Except RequestError (Option Json.Value) :=
  match answer with
  | .error e => .error (.transport e)
  | .ok envelope =>
    match envelope.split with
    | .ok data => .ok data
    | .error errors => .error (.classified ⟨errors⟩)

theorem graphql_send_eq (transport : Transport m) (destination : Url) (r : Request) :
    GraphQL.send transport destination r = received <$> transport.send destination r.outgoing := by
  rw [map_eq_pure_bind]
  unfold GraphQL.send
  refine bind_congr fun answer => ?_
  cases answer with
  | error e => rfl
  | ok envelope =>
    simp only [received]
    cases envelope.split <;> rfl

/-- What the exchange of a refresh credential comes to by the answer to it. -/
def granted (answer : Except TransportError Envelope) : Except RefreshError AccessGrant :=
  match (received answer).bind (GraphQL.decode RefreshData.read) with
  | .error e => .error (.request e)
  | .ok data =>
    match data.result.split with
    | .error problems => .error (.rejected problems)
    | .ok grant => .ok grant

theorem requestAccessGrant_eq (transport : Transport m) (destination : Url) (token : Secret) :
    requestAccessGrant transport destination token =
      granted <$> transport.send destination (refreshRequest token).outgoing := by
  unfold requestAccessGrant GraphQL.sendAs
  rw [graphql_send_eq, map_eq_pure_bind granted]
  simp only [bind_map_left, bind_assoc, pure_bind]
  refine bind_congr fun answer => ?_
  simp only [granted]
  cases (received answer).bind (GraphQL.decode RefreshData.read) with
  | error e => rfl
  | ok data => dsimp only; cases data.result.split <;> rfl

/-- Whether an answer reports that credentials are missing or refused. -/
def isRefused (answer : Except TransportError Envelope) : Bool :=
  match received answer with
  | .ok _ => false
  | .error e => e.authFailure?.isSome

end Outcomes

/-- What others see of a session: the messages it sends, with their answers, and redirections. -/
inductive Outward
  | sent (destination : Url) (message : Outgoing) (answer : Except TransportError Envelope)
  | redirected

/-- What others see of one call. -/
def Moment.outward? : Moment → Option Outward
  | ⟨_, .send destination message, answer⟩ => some (.sent destination message answer)
  | ⟨_, .note .redirect, _⟩ => some .redirected
  | _ => none

/-- What others saw, in the order of time. -/
def Scene.outward (s : Scene) : List Outward := s.past.reverse.filterMap Moment.outward?

/-- A scene over a store in memory, seen from outside. -/
structure Scene.Shows (s : Scene) (clock : Nat → Instant) (reads : Nat) (store : MemoryStore)
    (outward : List Outward) : Prop where
  clock : s.world.clock = clock
  reads : s.world.reads = reads
  store : s.world.store = .memory store
  faults : s.world.faults = []
  outward : s.outward = outward

section Calls

variable {n : Nat} {s : Scene} {clock : Nat → Instant} {m : MemoryStore} {out : List Outward}

theorem outward_cons (w : World) (moment : Moment) (past : List Moment) :
    (Scene.mk w (moment :: past)).outward =
      (Scene.mk w past).outward ++ moment.outward?.toList := by
  cases h : moment.outward? <;> simp [Scene.outward, h]

theorem alone_call (e : Endpoint) (id : Nat) (c : Call) (s : Scene) :
    (Script.ask c).alone e.scenes id s =
      ((e.react id c s.world).1.answer,
        ⟨(e.react id c s.world).2, ⟨id, c, (e.react id c s.world).1.answer⟩ :: s.past⟩) := rfl

variable (e : Endpoint) (id : Nat)

/-- One call, seen from outside: what it answers, and what it makes of the store. -/
theorem alone_call_shows (h : s.Shows clock n m out) (c : Call) {r : Reaction c.Answer} {w : World}
    {m' : MemoryStore} (hr : e.react id c s.world = (r, w)) (hc : w.clock = s.world.clock)
    (hf : w.faults = s.world.faults) (hs : w.store = .memory m') :
    ∃ s', (Script.ask c).alone e.scenes id s = (r.answer, s') ∧
      s'.Shows clock w.reads m' (out ++ (Moment.mk id c r.answer).outward?.toList) := by
  refine ⟨⟨w, ⟨id, c, r.answer⟩ :: s.past⟩, ?_, hc.trans h.clock, rfl, hs, hf.trans h.faults, ?_⟩
  · rw [alone_call, hr]
  · rw [outward_cons, ← h.outward]
    rfl

theorem alone_get (h : s.Shows clock n m out) (key : String) :
    ∃ s', (Script.store.get key).alone e.scenes id s = (.ok (m.get (clock n) key), s') ∧
      s'.Shows clock (n + 1) m out := by
  have hr : e.react id (.get key) s.world = (.now (s.world.get key).1, (s.world.get key).2) := rfl
  rw [World.get_memory h.store h.faults] at hr
  obtain ⟨s', ha, hs⟩ := alone_call_shows e id h _ hr rfl rfl h.store
  rw [World.now, h.clock, h.reads] at ha
  exact ⟨s', ha, by simpa [h.reads, Moment.outward?] using hs⟩

theorem alone_set (h : s.Shows clock n m out) (key : String) (value : Secret) (ttl : Span) :
    ∃ s', (Script.store.set key value ttl).alone e.scenes id s = (.ok (), s') ∧
      s'.Shows clock (n + 1) (m.set (clock n) key value ttl) out := by
  have hr : e.react id (.set key value ttl) s.world =
      (.now (s.world.set key value ttl).1, (s.world.set key value ttl).2) := rfl
  rw [World.set_memory h.store h.faults, World.now, h.clock, h.reads] at hr
  obtain ⟨s', ha, hs⟩ := alone_call_shows e id h _ hr h.clock.symm rfl rfl
  exact ⟨s', ha, by simpa [Moment.outward?] using hs⟩

theorem alone_remove (h : s.Shows clock n m out) (key : String) :
    ∃ s', (Script.store.remove key).alone e.scenes id s = (.ok (), s') ∧
      s'.Shows clock (n + 1) (m.remove key) out := by
  have hr : e.react id (.remove key) s.world =
      (.now (s.world.remove key).1, (s.world.remove key).2) := rfl
  rw [World.remove_memory h.store h.faults, h.reads] at hr
  obtain ⟨s', ha, hs⟩ := alone_call_shows e id h _ hr rfl rfl rfl
  exact ⟨s', ha, by simpa [Moment.outward?] using hs⟩

theorem alone_log (h : s.Shows clock n m out) (line : LogLine) :
    ∃ s', (Script.log.write line).alone e.scenes id s = ((), s') ∧ s'.Shows clock n m out := by
  have hr : e.react id (.log line) s.world = (.now (), s.world.write line) := rfl
  obtain ⟨s', ha, hs⟩ := alone_call_shows e id h _ hr (World.write_clock _ _)
    (World.write_faults _ _) ((World.write_store _ _).trans h.store)
  exact ⟨s', ha, by simpa [h.reads, Moment.outward?] using hs⟩

/-- The endpoint answers a message in any way. -/
theorem alone_send (h : s.Shows clock n m out) (destination : Url) (message : Outgoing) :
    ∃ answer s', (Script.transport.send destination message).alone e.scenes id s = (answer, s') ∧
      s'.Shows clock n m (out ++ [.sent destination message answer]) := by
  obtain ⟨s', ha, hs⟩ := alone_call_shows e id h (.send destination message)
    rfl rfl rfl h.store
  exact ⟨_, s', ha, by simpa [h.reads, Moment.outward?] using hs⟩

/-- So does it answer the exchange of a refresh credential. -/
theorem alone_exchange (h : s.Shows clock n m out) (destination : Url) (token : Secret) :
    ∃ answer s', (requestAccessGrant Script.transport destination token).alone e.scenes id s =
        (granted answer, s') ∧
      s'.Shows clock n m (out ++ [.sent destination (refreshRequest token).outgoing answer]) := by
  obtain ⟨answer, s', ha, hs⟩ := alone_send e id h destination (refreshRequest token).outgoing
  refine ⟨answer, s', ?_, hs⟩
  rw [requestAccessGrant_eq, map_eq_pure_bind]
  exact Program.alone_bind_of ha _

theorem alone_redirect (h : s.Shows clock n m out) :
    ∃ s', (Script.note .redirect).alone e.scenes id s = ((), s') ∧
      s'.Shows clock n m (out ++ [.redirected]) := by
  obtain ⟨s', ha, hs⟩ := alone_call_shows e id h (.note .redirect)
    rfl rfl rfl h.store
  exact ⟨s', ha, by simpa [h.reads, Moment.outward?] using hs⟩

/-- The calls of a gate are not seen from outside. -/
theorem alone_gate_call (h : s.Shows clock n m out) (c : Call) {r : Reaction c.Answer}
    {g : GateState} (hr : e.react id c s.world = (r, { s.world with gate := g }))
    (ho : (Moment.mk id c r.answer).outward? = none) :
    ∃ s', (Script.ask c).alone e.scenes id s = (r.answer, s') ∧ s'.world.gate = g ∧
      s'.Shows clock n m out := by
  refine ⟨⟨{ s.world with gate := g }, ⟨id, c, r.answer⟩ :: s.past⟩, ?_, rfl, ?_⟩
  · rw [alone_call, hr]
  · refine ⟨h.clock, h.reads, h.store, h.faults, ?_⟩
    rw [outward_cons, ho, ← h.outward]
    exact List.append_nil _

/-- Without rivals a gate lets every refresh through. -/
theorem alone_gate_run (h : s.Shows clock n m out) (refresh : Script RefreshOutcome) :
    ∃ s₁, s₁.Shows clock n m out ∧ ∀ {a s₂ n' m' out'},
      refresh.alone e.scenes id s₁ = (a, s₂) → s₂.Shows clock n' m' out' →
      ∃ s', (Script.gate.run Script.log refresh).alone e.scenes id s = (a, s') ∧
        s'.Shows clock n' m' out' := by
  obtain ⟨s₁, h₁, g₁, v₁⟩ := alone_gate_call e id h .completed rfl rfl
  obtain ⟨s₂, h₂, g₂, v₂⟩ := alone_gate_call e id v₁ .acquire rfl rfl
  obtain ⟨s₃, h₃, g₃, v₃⟩ := alone_gate_call e id v₂ .completed rfl rfl
  obtain ⟨s₄, h₄, g₄, v₄⟩ := alone_gate_call e id v₃ .last rfl rfl
  refine ⟨s₄, v₄, fun {a s₅ n' m' out'} h₅ v₅ => ?_⟩
  obtain ⟨s₆, h₆, g₆, v₆⟩ := alone_gate_call e id v₅ (.settle a) rfl rfl
  obtain ⟨s₇, h₇, g₇, v₇⟩ := alone_gate_call e id v₆ .release rfl rfl
  have same : s₂.world.gate.completed = s.world.gate.completed := by rw [g₂, g₁]
  refine ⟨s₇, ?_, v₇⟩
  unfold Gate.run
  simp only [Script.gate]
  rw [Program.alone_bind_of h₁, Program.alone_bind_of h₂, Program.alone_bind_of h₃,
    Program.alone_bind_of h₄]
  simp only [Reaction.answer, same, Nat.lt_irrefl, if_false]
  rw [Program.alone_bind_of h₅, Program.alone_bind_of h₆, Program.alone_bind_of h₇]
  rfl

end Calls

end BearerSession
