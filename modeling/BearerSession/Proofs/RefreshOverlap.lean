import BearerSession.Proofs.SessionRules

namespace BearerSession

open GraphQL (Envelope Outgoing Request TransportError)

/-- The latest call of a task sent a refresh mutation: the task awaits the reply, or has just
received it. -/
def Exchanging (i : Nat) (h : List Moment) : Prop :=
  ∃ destination message answer before,
    own i h = ⟨i, .send destination message, answer⟩ :: before ∧ IsRefreshMutation message

namespace SharedSession

variable {c : SharedSession} {i : Nat}

/-- With a gate, a task that awaits the reply to a refresh mutation that it was not asked for is
inside. -/
theorem inside_of_exchanging (flight : c.options.singleFlight = true) {h : List Moment}
    (orderly : c.conduct.Orderly h) (hex : Exchanging i h) (hasks : ¬ c.AsksExchange i) :
    inside (own i h) = true ∧ ¬ Conduct.Waits (own i h) := by
  obtain ⟨destination, message, answer, before, hown, hmutation⟩ := hex
  obtain ⟨newer, older, rfl, -, -, hbefore⟩ := List.filter_eq_cons_iff.mp hown
  obtain ⟨hpermits, -⟩ := orderly _ older (List.suffix_append newer _)
  rw [hown]
  refine ⟨?_, ?_⟩
  · cases hpermits with
    | send hsend =>
      rw [← hbefore]
      exact (hsend flight hmutation).resolve_left hasks
  · rintro ⟨m, hm, hacquire⟩
    cases hm
    cases hacquire

end SharedSession

/-- With a gate, however many calls run and in whatever order they are polled, of all refresh
mutations that await their replies at any moment at most one was sent by a call that was not for
the mutation itself. -/
theorem exchanges_one_by_one (c : SharedSession) (flight : c.options.singleFlight = true)
    (e : Endpoint) {start : World} {s : Scene}
    (visit : Task.Visits e.scenes c.tasks ⟨start, []⟩ s) :
    ∀ i j, Exchanging i s.past → Exchanging j s.past →
      i = j ∨ c.AsksExchange i ∨ c.AsksExchange j := by
  intro i j hi hj
  obtain ⟨orderly, guarded⟩ := Conduct.visits_orderly c.run_follows visit
  by_cases hri : c.AsksExchange i
  · exact .inr (.inl hri)
  · by_cases hrj : c.AsksExchange j
    · exact .inr (.inr hrj)
    · left
      have holds {k : Nat} (hk : Exchanging k s.past) (hrk : ¬ c.AsksExchange k) :
          s.world.gate.lock.holder = some k := by
        obtain ⟨hinside, hwaits⟩ := SharedSession.inside_of_exchanging flight orderly hk hrk
        exact (guarded k hinside).resolve_left hwaits
      have hsame := (holds hi hri).symm.trans (holds hj hrj)
      exact Option.some.inj hsame

/-- An endpoint that refuses requests at once and takes its time over everything else. -/
def stallingEndpoint : Endpoint where
  outcome _ := .ok (.ofErrors [.ofMessage "Invalid token"])
  delay w :=
    match w.record with
    | .send _ message :: _ => if (message.headers.get? authorization).isSome then 0 else 1
    | _ => 0
  left w := w.replies

def twoRequests : SharedSession where
  destination := { scheme := "http", path := .segments [] }
  options := { singleFlight := true }
  redirects := true
  calls := [.request { query := "a" }, .request { query := "b" }]

/-- The theorem at two requests that are refused: one awaits its reply, the other waits its turn. -/
theorem exchanges_one_by_one_of_two :
    ∃ s, Task.Visits stallingEndpoint.scenes twoRequests.tasks ⟨heldWorld, []⟩ s ∧
      Exchanging 0 s.past ∧ Conduct.Waits (own 1 s.past) ∧
      ∀ i j, Exchanging i s.past → Exchanging j s.past → i = j := by
  have run := Task.passes_reaches stallingEndpoint.scenes 1 twoRequests.tasks ⟨heldWorld, []⟩
  have hasks : ∀ i, ¬ twoRequests.AsksExchange i := by
    have hother {r : Request} (hr : r.query ≠ refreshMutation) :
        ¬ ∃ call ∈ some (SessionCall.request r), call.document? = some refreshMutation := by
      rintro ⟨call, hcall, hdocument⟩
      cases hcall
      exact hr (Option.some.inj hdocument)
    rintro (_ | _ | i) (hrefresh | hdocument)
    · cases hrefresh
    · exact hother (by decide +kernel) hdocument
    · cases hrefresh
    · exact hother (by decide +kernel) hdocument
    · cases hrefresh
    · obtain ⟨call, hcall, -⟩ := hdocument
      cases hcall
  refine ⟨_, .between run, ⟨_, (refreshRequest ⟨"r"⟩).outgoing, _, _, rfl, _, rfl, rfl⟩,
    ⟨_, rfl, rfl⟩, fun i j hi hj => ?_⟩
  have hone := exchanges_one_by_one twoRequests rfl stallingEndpoint (.between run) i j hi hj
  exact hone.resolve_right (not_or.mpr ⟨hasks i, hasks j⟩)

/-- A request and a refresh that was asked for, in one session with a gate. -/
def requestAndRefresh : SharedSession :=
  { twoRequests with calls := [.request { query := "a" }, .refresh] }

/-- Both await the reply to a refresh mutation at the same time. -/
theorem request_and_refresh_overlap :
    ∃ p q s, Task.Reaches stallingEndpoint.scenes requestAndRefresh.tasks ⟨heldWorld, []⟩
        [.asleep 0 p, .asleep 0 q] s ∧
      requestAndRefresh.options.singleFlight = true ∧
      Exchanging 0 s.past ∧ Exchanging 1 s.past := by
  have run := Task.passes_reaches stallingEndpoint.scenes 1 requestAndRefresh.tasks ⟨heldWorld, []⟩
  exact ⟨_, _, _, run, rfl, ⟨_, (refreshRequest ⟨"r"⟩).outgoing, _, _, rfl, _, rfl, rfl⟩,
    ⟨_, (refreshRequest ⟨"r"⟩).outgoing, _, _, rfl, _, rfl, rfl⟩⟩

end BearerSession
