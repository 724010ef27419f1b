import BearerSession.Proofs.RequestStage

namespace BearerSession

open GraphQL (Envelope Outgoing Request TransportError)

namespace Crowd

variable (c : Crowd)

/-- A request that was refused and has taken notice of it. -/
structure Refused (i : Nat) (r : Request) (failure : List Moment) (s : Scene) : Prop where
  failed : c.Failed i r failure
  since : failure <:+ s.past
  attempts : (tally c.options.keys i s.past).attempts = 1

/-- A request that waits for the gate with a ticket. If a refresh counted since, it wrote an access
credential. -/
structure InQueue (i : Nat) (r : Request) (ticket : Nat) (failure : List Moment) (s : Scene) :
    Prop extends c.Refused i r failure s where
  refreshes : (tally c.options.keys i s.past).refreshes = 0
  counted : c.start.gate.completed ≤ ticket
  seen : ticket ≤ s.world.gate.completed
  renewed : ticket < s.world.gate.completed → Renewed c.options.keys.access failure s.past

/-- How a request rests. -/
inductive Resting (i : Nat) (r : Request) (s : Scene) : Task Call Call.Answer Response → Prop
  | ready : (∀ m ∈ s.past, m.task ≠ i) → Resting i r s (.ready (c.session.request r))
  | tried {n answer} : c.Tried i r answer s.past →
      Resting i r s (.asleep n (c.answered r (received answer)))
  | queued {ticket failure} : c.InQueue i r ticket failure s →
      Resting i r s (.waiting (c.entering r ticket))
  | exchanging {n answer before failure} : c.Refused i r failure s →
      Latest ⟨i, .send c.destination (refreshRequest c.token).outgoing, answer⟩ before s.past →
      (tally c.options.keys i before).reading = some c.options.keys.refresh →
      Resting i r s (.asleep n (c.exchanged r (granted answer)))
  | retried {n response} : Resting i r s (.asleep n (.done response))
  | finished {response} : Resting i r s (.finished response)

/-- Whether a request does only what it may do, up to its next suspension. -/
def Runs (e : Endpoint) (i : Nat) (p : Script Response) (s : Scene) : Prop :=
  p.Runs e.scenes c.Spared (fun i call s => ∃ r, c.requests[i]? = some r ∧ c.Permits i r s call)
    (fun i t s => ∃ r, c.requests[i]? = some r ∧ c.Resting i r s t) i s

/-- A scene within the scope of the invariant. -/
structure Sound (s : Scene) : Prop where
  inv : c.Inv s
  spared : c.Spared s

section Calls

variable {c} {e : Endpoint} {i : Nat} {r : Request} {s : Scene} (hi : c.requests[i]? = some r)
  (hs : c.Sound s)

include hi

/-- A message is answered sooner or later. -/
theorem runs_send {message : Outgoing}
    {next : (Call.send c.destination message).Answer → Script Response}
    (hp : c.Permits i r s (.send c.destination message))
    (hrest : ∀ s' answer n, s'.past = ⟨i, .send c.destination message, answer⟩ :: s.past →
      c.Resting i r s' (.asleep n (next answer))) :
    c.Runs e i (Program.ask (.send c.destination message) next) s :=
  fun _ => ⟨⟨r, hi, hp⟩, fun n => ⟨r, hi, hrest _ _ n rfl⟩⟩

include hs

/-- A call that is answered at once. -/
theorem runs_now {call : Call} {next : call.Answer → Script Response} {a : call.Answer}
    (hp : c.Permits i r s call) (ha : (e.react i call s.world).1 = .now a)
    (hnext : ∀ s', c.Sound s' → s'.past = ⟨i, call, a⟩ :: s.past →
      s'.world = (e.react i call s.world).2 → c.Runs e i (next a) s') :
    c.Runs e i (Program.ask call next) s := by
  intro hspared
  refine ⟨⟨r, hi, hp⟩, ?_⟩
  have hnow : (e.scenes.react i call s).1 = .now a := ha
  rw [hnow]
  refine hnext _ ⟨hs.inv.keep hi hp, hspared⟩ ?_ rfl
  show (⟨i, call, (e.react i call s.world).1.answer⟩ : Moment) :: s.past = _
  rw [ha]
  rfl

theorem runs_log {line : LogLine} {next : Unit → Script Response}
    (hnext : ∀ s', c.Sound s' → s'.past = ⟨i, .log line, ()⟩ :: s.past →
      s'.world.gate = s.world.gate → c.Runs e i (next ()) s') :
    c.Runs e i (Program.ask (.log line) next) s := by
  refine runs_now hi hs (a := ()) .log rfl fun s' hs' hpast hw => hnext s' hs' hpast ?_
  rw [hw]
  exact World.write_gate _ _

/-- The gate is taken at once or later. -/
theorem runs_acquire {next : Unit → Script Response}
    (hn : (tally c.options.keys i s.past).arrivals = 0)
    (hnext : ∀ s', c.Sound s' → s'.past = ⟨i, .acquire, ()⟩ :: s.past →
      s'.world.gate.completed = s.world.gate.completed →
      c.Runs e i (next ()) s' ∧ c.Resting i r s' (.waiting (next ()))) :
    c.Runs e i (Program.ask .acquire next) s := by
  intro hspared
  have hp : c.Permits i r s .acquire := .arrive hn
  obtain ⟨hruns, hrest⟩ := hnext _ ⟨hs.inv.keep hi hp, hspared⟩ rfl rfl
  refine ⟨⟨r, hi, hp⟩, ?_⟩
  have hr : (e.scenes.react i .acquire s).1 =
      if s.world.gate.lock.holder.isNone then .now () else .queued () := rfl
  rw [hr]
  cases s.world.gate.lock.holder with
  | none => exact hruns
  | some k => exact ⟨r, hi, hrest⟩

/-- An attempt reads the access credential, tells of itself, and sends its message. -/
theorem runs_attempt {kind : Attempt} {k : Response → Script Response}
    (hsend : ∀ x line s', (s.world.get c.options.keys.access).1 = .ok x →
      s'.past = ⟨i, .log line, ()⟩ :: ⟨i, .get c.options.keys.access, .ok x⟩ :: s.past →
      c.Permits i r s' (.send c.destination (attemptMessage r (headersOf x))))
    (hrest : ∀ x line answer s' n,
      s'.past = ⟨i, .send c.destination (attemptMessage r (headersOf x)), answer⟩ ::
        ⟨i, .log line, ()⟩ :: ⟨i, .get c.options.keys.access, .ok x⟩ :: s.past →
      c.Resting i r s' (.asleep n (k (received answer)))) :
    c.Runs e i (c.attempt r kind >>= k) s := by
  obtain ⟨next, heq, hnext⟩ := c.attempt_eq r kind
  obtain ⟨x, hx⟩ := hs.inv.get_ok c.options.keys.access
  obtain ⟨line, hline⟩ := hnext x
  rw [heq]
  refine runs_now hi hs .readAccess (congrArg Reaction.now hx) fun s₁ hs₁ hpast₁ _ => ?_
  show c.Runs e i (next (.ok x) >>= k) s₁
  rw [hline]
  refine runs_log hi hs₁ fun s₂ hs₂ hpast₂ _ => ?_
  rw [hpast₁] at hpast₂
  refine runs_send hi (hsend x line s₂ hx hpast₂) fun s₃ answer n hpast₃ => ?_
  rw [hpast₂] at hpast₃
  exact hrest x line answer s₃ n hpast₃

end Calls

section Segments

variable {c} {e : Endpoint} {i : Nat} {r : Request} {s : Scene} {failure : List Moment}

/-- A refused request has made one attempt. -/
theorem Refused.call {s' : Scene} {call : Call} {a : call.Answer} (hf : c.Refused i r failure s)
    (hpast : s'.past = ⟨i, call, a⟩ :: s.past)
    (ht : ((tally c.options.keys i s.past).after c.options.keys call).attempts =
      (tally c.options.keys i s.past).attempts) : c.Refused i r failure s' := by
  refine ⟨hf.failed, ?_, ?_⟩
  · rw [hpast]
    exact hf.since.trans (List.suffix_cons _ _)
  · rw [hpast, tally_mk, ht]
    exact hf.attempts

theorem Tried.tally {answer : Except TransportError Envelope}
    {h : List Moment} (ht : c.Tried i r answer h) :
    tally c.options.keys i h = { reading := some c.options.keys.access, attempts := 1 } := by
  obtain ⟨auth, before, hl, hb⟩ := ht
  have hsent := hl.tally c.options.keys
  rw [hb] at hsent
  rw [hsent]
  simp [Tally.after, c.distinct]

variable (hi : c.requests[i]? = some r) (hs : c.Sound s)

include hi hs

/-- The retry carries the access credential that was written last. -/
theorem runs_retry (hf : c.Refused i r failure s)
    (hn : Renewed c.options.keys.access failure s.past) : c.Runs e i (c.attempt r .retry) s := by
  obtain ⟨x, hx, hsince⟩ := hn
  obtain ⟨m, hm⟩ := hs.inv.store
  have hread := hs.inv.get_access hs.spared.lasts hx
  rw [← bind_pure (c.attempt r .retry)]
  refine runs_attempt hi hs (fun y line s' hy hpast => ?_) fun y line answer s' n hpast => .retried
  cases hread.symm.trans hy
  refine .second ?_ ⟨x, failure, ?_, (hm.newest x hx).1, hf.failed, hsince, rfl,
    fun name hname => overlay_bearer_get? _ _ _ hname⟩
  · rw [hpast, tally_mk, tally_mk]
    exact hf.attempts
  · rw [hpast]
    exact hx

/-- A refresh exchanges the refresh credential. -/
theorem runs_refreshing (hf : c.Refused i r failure s)
    (hn : (tally c.options.keys i s.past).refreshes = 0) : c.Runs e i (c.refreshing r) s := by
  obtain ⟨next, heq, hnext⟩ := c.refresh_eq
  unfold refreshing
  rw [heq]
  refine runs_now hi hs (.readRefresh hn)
    (congrArg Reaction.now (hs.inv.get_refresh hs.spared.lasts)) fun s₁ hs₁ hpast₁ _ => ?_
  show c.Runs e i (next (.ok (some c.token)) >>= _) s₁
  rw [hnext]
  refine runs_log hi hs₁ fun s₂ hs₂ hpast₂ _ => ?_
  have hf₂ := (hf.call hpast₁ rfl).call hpast₂ rfl
  have hreading : (tally c.options.keys i s₂.past).reading = some c.options.keys.refresh := by
    rw [hpast₂, hpast₁, tally_mk, tally_mk]
    rfl
  refine runs_send hi (.exchange hreading) fun s₃ answer n hpast₃ => ?_
  refine .exchanging (hf₂.call hpast₃ (if_pos hreading)) ?_ hreading
  rw [hpast₃]
  exact .now _ _

/-- With a granted access credential the request writes both credentials and goes to its retry. -/
theorem runs_exchanged (hf : c.Refused i r failure s) {before : List Moment}
    {answer : Except TransportError Envelope}
    (hl : Latest ⟨i, .send c.destination (refreshRequest c.token).outgoing, answer⟩ before s.past)
    (hreading : (tally c.options.keys i before).reading = some c.options.keys.refresh) :
    c.Runs e i (c.exchanged r (granted answer)) s := by
  obtain ⟨grant, hg⟩ := hs.spared.granted answer (hl.mem_exchanges hreading)
  rw [hg]
  refine runs_now hi hs (.writeAccess ⟨answer, grant, before, hl, hreading, hg, rfl⟩)
    (congrArg Reaction.now (hs.inv.set_ok _ _ _)) fun s₁ hs₁ hpast₁ _ => ?_
  refine runs_now hi hs₁ .writeRefresh (congrArg Reaction.now (hs₁.inv.set_ok _ _ _))
    fun s₂ hs₂ hpast₂ _ => ?_
  refine runs_log hi hs₂ fun s₃ hs₃ hpast₃ _ => ?_
  have hf₃ := ((hf.call hpast₁ rfl).call hpast₂ rfl).call hpast₃ rfl
  rw [hpast₂, hpast₁] at hpast₃
  have hnew : newest? c.options.keys.access s₃.past = some ⟨i, grant.access, s.past⟩ := by
    rw [hpast₃]
    simp [newest?, c.distinct.symm]
  show c.Runs e i (c.concluding r (.ok ())) s₃
  unfold concluding
  split
  · -- Nobody else runs between the write and the count, so the write is the latest by then.
    have hown : s₃.past = [⟨i, .log ⟨.info, "Refreshed access token"⟩, ()⟩,
        ⟨i, .set c.options.keys.refresh c.token c.options.ttl, .ok ()⟩,
        ⟨i, .set c.options.keys.access grant.access c.options.ttl, .ok ()⟩] ++ s.past := hpast₃
    refine runs_now hi hs₃ (.settle hnew hown (by simp)) rfl fun s₄ hs₄ hpast₄ _ => ?_
    refine runs_now hi hs₄ .release rfl fun s₅ hs₅ hpast₅ _ => ?_
    have hn₅ : Renewed c.options.keys.access failure s₅.past := by
      rw [hpast₅, hpast₄]
      exact .cons (.cons ⟨_, hnew, hf.since⟩ _) _
    exact runs_retry hi hs₅ ((hf₃.call hpast₄ rfl).call hpast₅ rfl) hn₅
  · exact runs_retry hi hs₃ hf₃ ⟨_, hnew, hf.since⟩

/-- Whoever has taken the gate shares a refresh that counted since, or refreshes. -/
theorem runs_entering {ticket : Nat} (hq : c.InQueue i r ticket failure s) :
    c.Runs e i (c.entering r ticket) s := by
  have hf := hq.toRefused
  refine runs_now hi hs .count rfl fun s₁ hs₁ hpast₁ hw₁ => ?_
  refine runs_now hi hs₁ .look rfl fun s₂ hs₂ hpast₂ _ => ?_
  have hf₂ := (hf.call hpast₁ rfl).call hpast₂ rfl
  have hg₁ : s₁.world.gate = s.world.gate := congrArg World.gate hw₁
  by_cases hlt : ticket < s.world.gate.completed
  · have hlast : s₁.world.gate.last = some (.ok ()) := by
      rw [hg₁]
      exact hs.inv.latest (Nat.lt_of_le_of_lt hq.counted hlt)
    rw [if_pos hlt, hlast]
    refine runs_log hi hs₂ fun s₃ hs₃ hpast₃ _ => ?_
    refine runs_now hi hs₃ .release rfl fun s₄ hs₄ hpast₄ _ => ?_
    have hn₄ : Renewed c.options.keys.access failure s₄.past := by
      rw [hpast₄, hpast₃, hpast₂, hpast₁]
      exact .cons (.cons (.cons (.cons (hq.renewed hlt) _) _) _) _
    exact runs_retry hi hs₄ ((hf₂.call hpast₃ rfl).call hpast₄ rfl) hn₄
  · rw [if_neg hlt]
    refine runs_refreshing hi hs₂ hf₂ ?_
    rw [hpast₂, hpast₁, tally_mk, tally_mk]
    exact hq.refreshes

/-- Whoever recovers takes a ticket and then the gate, if there is one, or refreshes. -/
theorem runs_recovering (hf : c.Refused i r s.past s)
    (htally : tally c.options.keys i s.past =
      { reading := some c.options.keys.access, attempts := 1 }) :
    c.Runs e i (c.session.recover >>= c.resumed r) s := by
  rw [recover_eq]
  split
  · refine runs_now hi hs .count rfl fun s₁ hs₁ hpast₁ hw₁ => ?_
    have hg₁ : s₁.world.gate = s.world.gate := congrArg World.gate hw₁
    refine runs_acquire hi hs₁ ?_ fun s₂ hs₂ hpast₂ hg₂ => ?_
    · rw [hpast₁, tally_mk, htally]
      rfl
    have hsame : s₂.world.gate.completed = s.world.gate.completed := by rw [hg₂, hg₁]
    have hq₂ : c.InQueue i r s.world.gate.completed s.past s₂ := by
      refine ⟨(hf.call hpast₁ rfl).call hpast₂ rfl, ?_, hs.inv.counted, Nat.le_of_eq hsame.symm,
        fun hlt => ?_⟩
      · rw [hpast₂, hpast₁, tally_mk, tally_mk, htally]
        rfl
      · rw [hsame] at hlt
        exact absurd hlt (Nat.lt_irrefl _)
    exact ⟨runs_entering hi hs₂ hq₂, .queued hq₂⟩
  · refine runs_refreshing hi hs hf ?_
    rw [htally]

/-- A request that was refused recovers, and any other is done. -/
theorem runs_answered {answer : Except TransportError Envelope} (ht : c.Tried i r answer s.past) :
    c.Runs e i (c.answered r (received answer)) s := by
  unfold answered
  cases hr : received answer with
  | ok data => exact ⟨r, hi, .finished⟩
  | error error =>
    simp only
    cases hreason : error.authFailure? with
    | none => exact ⟨r, hi, .finished⟩
    | some reason =>
      have hrefused : isRefused answer = true := by simp [isRefused, hr, hreason]
      refine runs_log hi hs fun s₁ hs₁ hpast₁ _ => ?_
      have htally₁ : tally c.options.keys i s₁.past =
          { reading := some c.options.keys.access, attempts := 1 } := by
        rw [hpast₁, tally_mk, ht.tally]
        rfl
      refine runs_recovering hi hs₁ ⟨⟨reason, answer, s.past, hpast₁, hrefused, ht⟩,
        List.suffix_rfl, ?_⟩ htally₁
      rw [htally₁]

/-- A request begins with its first attempt. -/
theorem runs_request (habsent : ∀ m ∈ s.past, m.task ≠ i) :
    c.Runs e i (c.session.request r) s := by
  have htally : tally c.options.keys i s.past = {} := tally_of_absent habsent
  rw [request_eq]
  refine runs_attempt hi hs (fun x line s' _ hpast => .first ?_) fun x line answer s' n hpast => ?_
  · rw [hpast, tally_mk, tally_mk, htally]
    rfl
  · have hlatest := Latest.now ⟨i, .send c.destination (attemptMessage r (headersOf x)), answer⟩
      (⟨i, .log line, ()⟩ :: ⟨i, .get c.options.keys.access, .ok x⟩ :: s.past)
    rw [← hpast] at hlatest
    refine .tried ⟨headersOf x, _, hlatest, ?_⟩
    rw [tally_mk, tally_mk, htally]
    simp [Tally.after, c.distinct]

end Segments

end Crowd

end BearerSession
