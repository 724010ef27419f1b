import BearerSession.Proofs.RequestSchedule

namespace BearerSession

open GraphQL (Envelope Outgoing Request TransportError)

namespace Crowd

section Others

variable {c : Crowd} {e : Endpoint} {i j : Nat} {r r' : Request} {s : Scene} {call : Call}
  {failure : List Moment} (hij : i ≠ j)

include hij

theorem Refused.other (hf : c.Refused j r' failure s) :
    c.Refused j r' failure (e.scenes.react i call s).2 := by
  refine ⟨hf.failed, hf.since.trans (List.suffix_cons _ _), ?_⟩
  rw [← hf.attempts]
  exact congrArg Tally.attempts (tally_other hij)

theorem Tried.other {answer : Except TransportError Envelope} (ht : c.Tried j r' answer s.past) :
    c.Tried j r' answer (e.scenes.react i call s).2.past := by
  obtain ⟨auth, before, hl, hb⟩ := ht
  exact ⟨auth, before, hl.cons hij, hb⟩

/-- Between the write of a refresh and its count nobody else takes notice of a failure. -/
theorem InQueue.other {ticket : Nat} (hp : c.Permits i r s call)
    (hq : c.InQueue j r' ticket failure s) :
    c.InQueue j r' ticket failure (e.scenes.react i call s).2 := by
  have hstep := gate_step (e := e) hp
  refine ⟨hq.toRefused.other hij, ?_, hq.counted, ?_, fun hlt => ?_⟩
  · rw [← hq.refreshes]
    exact congrArg Tally.refreshes (tally_other hij)
  · have hseen := hq.seen
    show ticket ≤ (e.react i call s.world).2.gate.completed
    rcases hstep with ⟨hg, -⟩ | ⟨-, hg, -⟩ <;> omega
  · rcases hstep with ⟨hg, -⟩ | ⟨rfl, -, -⟩
    · have hlt' : ticket < s.world.gate.completed := hg ▸ hlt
      exact (hq.renewed hlt').cons _
    · cases hp with
      | @settle x own hx hpast hown =>
        obtain ⟨reason, answer, heard, hfail, -⟩ := hq.failed
        have hsince := hq.since
        rw [hpast, hfail] at hsince
        have hbefore := suffix_of_own hown (Ne.symm hij) hsince
        rw [← hfail] at hbefore
        exact .cons ⟨x, hx, hbefore⟩ _

/-- What one request may do does not disturb how another rests. -/
theorem Resting.other {t : Task Call Call.Answer Response} (hp : c.Permits i r s call)
    (ht : c.Resting j r' s t) : c.Resting j r' (e.scenes.react i call s).2 t := by
  cases ht with
  | ready habsent =>
    refine .ready fun m hm => ?_
    rcases List.mem_cons.mp hm with rfl | hm
    · exact hij
    · exact habsent m hm
  | tried ht => exact .tried (ht.other hij)
  | queued hq => exact .queued (hq.other hij hp)
  | exchanging hf hl hreading => exact .exchanging (hf.other hij) (hl.cons hij) hreading
  | retried => exact .retried
  | finished => exact .finished

end Others

/-- The discipline of concurrent requests. -/
def discipline (c : Crowd) (e : Endpoint) : Discipline e.scenes Response where
  scope := c.Spared
  inv := c.Inv
  permits i call s := ∃ r, c.requests[i]? = some r ∧ c.Permits i r s call
  rests i t s := ∃ r, c.requests[i]? = some r ∧ c.Resting i r s t
  back := Spared.back
  keep := by
    rintro i call s - hinv ⟨r, hi, hp⟩
    exact hinv.keep hi hp
  frame := by
    rintro i j call t s hij - - ⟨r, -, hp⟩ ⟨r', hj, ht⟩
    exact ⟨r', hj, ht.other hij hp⟩
  ready := by
    rintro i p s hspared hinv ⟨r, hi, ht⟩
    cases ht with
    | ready habsent => exact runs_request hi ⟨hinv, hspared⟩ habsent
  awake := by
    rintro i p s hspared hinv ⟨r, hi, ht⟩
    cases ht with
    | tried ht => exact runs_answered hi ⟨hinv, hspared⟩ ht
    | exchanging hf hl hreading => exact runs_exchanged hi ⟨hinv, hspared⟩ hf hl hreading
    | retried => exact ⟨r, hi, .finished⟩
  turn := by
    rintro i p s hspared hinv ⟨r, hi, ht⟩ -
    cases ht with
    | queued hq => exact runs_entering hi ⟨hinv, hspared⟩ hq
  doze := by
    rintro i n p s ⟨r, hi, ht⟩
    refine ⟨r, hi, ?_⟩
    cases ht with
    | tried ht => exact .tried ht
    | exchanging hf hl hreading => exact .exchanging hf hl hreading
    | retried => exact .retried

end Crowd

/-- However many requests run and in whatever order they are polled, at any moment up to which no
horizon has passed and every exchange was granted, the refresh key reads as at the start, and the
record of the calls is that of requests that renew their credentials. -/
theorem requests_retry_renewed (c : Crowd) (e : Endpoint) {s : Scene}
    (visit : Task.Visits e.scenes c.tasks ⟨c.start, []⟩ s) (spared : c.Spared s) :
    c.Record s.past ∧ (s.world.get c.options.keys.refresh).1 = .ok (some c.token) := by
  have hrest : ∀ i t, c.tasks[i]? = some t → (c.discipline e).rests i t ⟨c.start, []⟩ := by
    intro i t ht
    simp only [Crowd.tasks, List.getElem?_map, Option.map_eq_some_iff] at ht
    obtain ⟨r, hi, rfl⟩ := ht
    exact ⟨r, hi, .ready fun m hm => nomatch hm⟩
  have hinv : c.Inv s := (c.discipline e).visits_inv visit .init hrest spared
  exact ⟨hinv.record, hinv.get_refresh spared.lasts⟩

/-- An endpoint that grants an access credential and refuses every other. -/
def renewingEndpoint : Endpoint where
  outcome w :=
    match w.record with
    | .send _ message :: _ =>
      match message.headers.get? authorization with
      | none =>
        .ok (.ofData (.object [("refreshToken", .object [("accessToken", .string "fresh")])]))
      | some value =>
        if value = "Bearer fresh" then .ok .empty
        else .ok (.ofErrors [.ofMessage "Invalid token"])
    | _ => .ok .empty
  delay _ := 1
  left w := w.replies

/-- Two requests that share a gate and find an access credential that is refused. -/
def crowdOfTwo : Crowd where
  destination := { scheme := "http", path := .segments [] }
  options := { singleFlight := true }
  redirects := true
  requests := [{ query := "a" }, { query := "b" }]
  token := ⟨"r"⟩
  horizon := Instant.least.plus defaultTtl
  store := .ofValues [("accessToken", "a"), ("refreshToken", "r")] .least
  start := stillWorld (.ofValues [("accessToken", "a"), ("refreshToken", "r")] .least) .least
  distinct := by decide
  memory := rfl
  reliable := rfl
  held := rfl

/-- The theorem at two requests, of which the second retries with the credential of the first. -/
theorem requests_retry_renewed_of_two :
    ∃ s, Task.Visits renewingEndpoint.scenes crowdOfTwo.tasks ⟨crowdOfTwo.start, []⟩ s ∧
      crowdOfTwo.Spared s ∧
      tally crowdOfTwo.options.keys 0 s.past =
        { reading := some "accessToken", attempts := 2, arrivals := 1, refreshes := 1 } ∧
      tally crowdOfTwo.options.keys 1 s.past =
        { reading := some "accessToken", attempts := 2, arrivals := 1, refreshes := 0 } ∧
      crowdOfTwo.Record s.past ∧
      (s.world.get crowdOfTwo.options.keys.refresh).1 = .ok (some crowdOfTwo.token) := by
  have run := Task.passes_reaches renewingEndpoint.scenes 5 crowdOfTwo.tasks ⟨crowdOfTwo.start, []⟩
  have spared : crowdOfTwo.Spared (Task.passes renewingEndpoint.scenes 5 crowdOfTwo.tasks
      ⟨crowdOfTwo.start, []⟩).2 := by
    have hlater : Instant.least < Instant.least.plus defaultTtl := by decide
    refine ⟨⟨fun _ _ _ => hlater, fun _ _ _ _ _ => hlater⟩, fun answer ha => ?_⟩
    have hone : exchanges crowdOfTwo.options.keys (Task.passes renewingEndpoint.scenes 5
        crowdOfTwo.tasks ⟨crowdOfTwo.start, []⟩).2.past = [.ok (.ofData (.object
          [("refreshToken", .object [("accessToken", .string "fresh")])]))] := rfl
    rw [hone] at ha
    cases List.mem_singleton.mp ha
    exact ⟨⟨⟨"fresh"⟩, "Bearer"⟩, rfl⟩
  exact ⟨_, .between run, spared, rfl, rfl,
    requests_retry_renewed crowdOfTwo renewingEndpoint (.between run) spared⟩

end BearerSession
