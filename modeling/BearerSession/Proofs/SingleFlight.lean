import BearerSession.Proofs.GateSchedule

namespace BearerSession

section Others

variable {e : Endpoint} {i j : Nat} {body body' : Script RefreshOutcome} {s : Scene}

/-- Whoever else is in line stays in line, and who holds the gate is not disturbed. -/
theorem Stage.others (e : Endpoint) (hi : GateInv s) {c : Call}
    {next : c.Answer → Script RefreshOutcome} (hs : Stage i body s (Program.ask c next))
    (hj : i ≠ j) :
    (j ∈ s.world.gate.lock.line → j ∈ (e.react i c s.world).2.gate.lock.line) ∧
      (s.world.gate.lock.holder = some j →
        (e.react i c s.world).2.gate.lock.holder = some j ∧ c.outcome? = none) := by
  have same : (e.react i c s.world).2.gate = s.world.gate → c.outcome? = none →
      (j ∈ s.world.gate.lock.line → j ∈ (e.react i c s.world).2.gate.lock.line) ∧
      (s.world.gate.lock.holder = some j →
        (e.react i c s.world).2.gate.lock.holder = some j ∧ c.outcome? = none) := by
    intro hg hout
    rw [hg]
    exact ⟨id, fun hh => ⟨hh, hout⟩⟩
  have conflict : s.world.gate.lock.holder = some i → s.world.gate.lock.holder ≠ some j :=
    fun hh hj' => hj (Option.some.inj (hh.symm.trans hj'))
  cases hs with
  | start hp => exact same rfl rfl
  | enter hl hh => exact same rfl rfl
  | look hl hh hc => exact same rfl rfl
  | reuse hh hd => exact same (World.write_gate s.world _) rfl
  | begin hh hp hm hw hsince => exact same rfl rfl
  | seek hp ht hread =>
    refine ⟨fun hl => ?_, fun hh => ⟨Lock.acquire_holder_of_some i hh, rfl⟩⟩
    show j ∈ (s.world.gate.lock.acquire i).line
    rw [Lock.acquire_line hi.fair]
    exact List.mem_append_left _ hl
  | leave hh hd =>
    refine ⟨fun hl => ?_, fun hh' => absurd hh' (conflict hh)⟩
    show j ∈ s.world.gate.lock.release.line
    rw [Lock.line_of_holder hh] at hl
    rw [Lock.release_line]
    exact (List.mem_cons.mp hl).resolve_left (Ne.symm hj)
  | @refresh p left hp hb =>
    cases left with
    | done o =>
      cases hp
      exact ⟨id, fun hh => absurd hh (conflict hb.holds)⟩
    | ask c' next' =>
      cases hp
      have hc := hb.free.1
      refine same (e.react_gate s.world i hc) ?_
      cases c <;> first | rfl | cases hc

/-- What holds of a task that is not running. -/
def Resting (i : Nat) (body : Script RefreshOutcome) (s : Scene) :
    Task Call Call.Answer RefreshOutcome → Prop
  | .ready p => p = gateCaller i body ∧ passage i s.past = {}
  | .asleep _ p => ∃ left, p = left >>= closing ∧ InBody i body left s
  | .waiting p => ∃ ticket, p = entering i body ticket ∧ InLine i ticket s
  | .finished o => Decided i body o s.past

theorem Resting.frame (e : Endpoint) (hi : GateInv s) {c : Call}
    {next : c.Answer → Script RefreshOutcome} (hs : Stage i body s (Program.ask c next))
    (hj : i ≠ j) {t : Task Call Call.Answer RefreshOutcome} (ht : Resting j body' s t) :
    Resting j body' (e.scenes.react i c s).2 t := by
  obtain ⟨hline, hhold⟩ := Stage.others e hi hs hj
  cases t with
  | ready p => exact ⟨ht.1, (passage_other hj).trans ht.2⟩
  | asleep n p =>
    obtain ⟨left, hp, hb⟩ := ht
    obtain ⟨hh, hout⟩ := hhold hb.holds
    exact ⟨left, hp, hb.frame _ hj hh hout⟩
  | waiting p =>
    obtain ⟨ticket, hp, hl⟩ := ht
    exact ⟨ticket, hp, hl.frame _ hj (hline hl.lined)⟩
  | finished o => exact Decided.cons ht (passage_other hj) (enters_of_ne hj)

end Others

/-- The stages of all callers of a gate. -/
def gateOutline (e : Endpoint) (bodies : List (Script RefreshOutcome))
    (free : ∀ body ∈ bodies, body.Asks fun c => c.isReserved = false) :
    Outline e.scenes RefreshOutcome where
  inv := GateInv
  moves i p s := ∃ body, bodies[i]? = some body ∧ Stage i body s p
  rests i t s := ∃ body, bodies[i]? = some body ∧ Resting i body s t
  ready := by
    rintro i p s - ⟨body, hbody, rfl, hp⟩
    exact ⟨body, hbody, .start hp⟩
  awake := by
    rintro i p s - ⟨body, hbody, left, hp, hb⟩
    exact ⟨body, hbody, .refresh hp hb⟩
  turn := by
    rintro i p s - ⟨body, hbody, ticket, rfl, hl⟩ hturn
    exact ⟨body, hbody, .enter hl (of_decide_eq_true hturn)⟩
  doze := by
    rintro i n p s ⟨body, hbody, hrest⟩
    exact ⟨body, hbody, hrest⟩
  done := by
    rintro i o s - ⟨body, hbody, hs⟩
    refine ⟨body, hbody, ?_⟩
    cases hs with
    | gone hd => exact hd
    | @refresh p left hp hb => cases left <;> cases hp
  keep := by
    rintro i c next s hi ⟨body, hbody, hs⟩
    exact (Stage.step e (free body (List.mem_of_getElem? hbody)) hi hs).1
  now := by
    rintro i c next s a hi ⟨body, hbody, hs⟩ hr
    have hstep := (Stage.step e (free body (List.mem_of_getElem? hbody)) hi hs).2
    rw [hr] at hstep
    exact ⟨body, hbody, hstep⟩
  later := by
    rintro i c next s n a hi ⟨body, hbody, hs⟩ hr
    have hstep := (Stage.step e (free body (List.mem_of_getElem? hbody)) hi hs).2
    rw [hr] at hstep
    obtain ⟨left, hp, hb⟩ := hstep
    exact ⟨⟨body, hbody, .refresh hp hb⟩, fun k => ⟨body, hbody, left, hp, hb⟩⟩
  queued := by
    rintro i c next s a hi ⟨body, hbody, hs⟩ hr
    have hstep := (Stage.step e (free body (List.mem_of_getElem? hbody)) hi hs).2
    rw [hr] at hstep
    exact ⟨body, hbody, hstep⟩
  frame := by
    rintro i j c next t s hj hi ⟨body, hbody, hs⟩ ⟨body', hbody', ht⟩
    exact ⟨body', hbody', ht.frame e hi hs hj⟩

/-- What single flight means for the callers of a gate, whose refreshes are given. -/
structure SingleFlight (bodies : List (Script RefreshOutcome))
    (ts : List (Task Call Call.Answer RefreshOutcome)) (s : Scene) : Prop where
  alone : ∀ h, h <:+ s.past → ∀ i j, InProgress i h → InProgress j h → i = j
  counted : s.world.gate.completed = (outcomes s.past).length
  latest : s.world.gate.last = (outcomes s.past).head?
  /-- A refresh counts when it came to its outcome. -/
  settled : ∀ i o, ⟨i, .settle o, ()⟩ ∈ s.past →
    ∃ body, bodies[i]? = some body ∧ CameTo i body o s.past
  /-- Tickets are read on arrival. -/
  ticket : ∀ i before, ⟨i, .acquire, ()⟩ :: before <:+ s.past →
    ∃ earlier, before = ⟨i, .completed, (outcomes earlier).length⟩ :: earlier
  /-- The counter counts at every look at it. -/
  counts : ∀ i a before, ⟨i, .completed, a⟩ :: before <:+ s.past → a = (outcomes before).length
  /-- There is a latest outcome at every look after a refresh finished. -/
  found : ∀ i a before, ⟨i, .last, a⟩ :: before <:+ s.past → a = (outcomes before).head?
  /-- A caller refreshes when no refresh finished while it waited for the gate. -/
  refreshes : ∀ i, (passage i s.past).begun = true ↔
    (passage i s.past).entered = true ∧ missed i (tillEntry i s.past) = []
  own : ∀ i o, ts[i]? = some (.finished o) → (passage i s.past).begun = true →
    ⟨i, .settle o, ()⟩ ∈ s.past
  shared : ∀ i o, ts[i]? = some (.finished o) → (passage i s.past).begun = false →
    missed i (tillEntry i s.past) = [o] ∧ (outcomes (tillEntry i s.past)).head? = some o
  /-- Who refreshes later arrived after those who refreshed before had finished. -/
  later : ∀ i m before, m :: before <:+ s.past → m.call.begins = true →
    (passage i before).begun = true → i ≠ m.task →
    (passage i (tillArrival m.task before)).finished = true
  /-- Those who arrive before the first refresh finishes share it. -/
  first : ∀ k o early, ⟨k, .settle o, ()⟩ :: early <:+ s.past → outcomes early = [] →
    ∀ i, (passage i early).arrived = true →
      ((passage i s.past).begun = true ↔ i = k) ∧ ∀ o', ts[i]? = some (.finished o') → o' = o

section Result

variable {i : Nat} {body : Script RefreshOutcome} {o : RefreshOutcome} {s : Scene} {h : List Moment}

theorem CameTo.mem (hc : CameTo i body o h) : ⟨i, .settle o, ()⟩ ∈ h := by
  obtain ⟨later, during, hs, -⟩ := hc
  have hm : (⟨i, .settle o, ()⟩ : Moment) ∈ sinceEntry i h := by
    rw [hs]
    exact List.mem_append_right _ List.mem_cons_self
  exact (List.takeWhile_sublist _).subset hm

theorem Resting.refreshes {t : Task Call Call.Answer RefreshOutcome} (ht : Resting i body s t) :
    (passage i s.past).begun = true ↔
      (passage i s.past).entered = true ∧ missed i (tillEntry i s.past) = [] := by
  cases t with
  | ready p => simp [ht.2]
  | waiting p =>
    obtain ⟨ticket, hp, hl⟩ := ht
    simp [hl.passed]
  | asleep n p =>
    obtain ⟨left, hp, hb⟩ := ht
    simp [hb.passed, hb.waited]
  | finished o =>
    cases ht with
    | own hpassed hwaited hcame => simp [hpassed, hwaited]
    | shared hpassed hwaited => simp [hpassed, hwaited]

theorem Resting.settled {t : Task Call Call.Answer RefreshOutcome} (ho : Orderly s.past)
    (ht : Resting i body s t) (hm : ⟨i, .settle o, ()⟩ ∈ s.past) : CameTo i body o s.past := by
  have hf : (passage i s.past).finished = true :=
    finished_of_mem (m := ⟨i, .settle o, ()⟩) hm rfl
  cases t with
  | ready p =>
    rw [ht.2] at hf
    cases hf
  | waiting p =>
    obtain ⟨ticket, hp, hl⟩ := ht
    rw [hl.passed] at hf
    cases hf
  | asleep n p =>
    obtain ⟨left, hp, hb⟩ := ht
    rw [hb.passed] at hf
    cases hf
  | finished o' =>
    cases ht with
    | own hpassed hwaited hcame =>
      cases ho.outcome_unique hm hcame.mem rfl rfl rfl
      exact hcame
    | shared hpassed hwaited =>
      rw [hpassed] at hf
      cases hf

/-- Who refreshed came to its outcome. -/
theorem Decided.mem (hd : Decided i body o h) (hb : (passage i h).begun = true) :
    ⟨i, .settle o, ()⟩ ∈ h := by
  cases hd with
  | own hpassed hwaited hcame => exact hcame.mem
  | shared hpassed hwaited =>
    rw [hpassed] at hb
    cases hb

/-- Who did not refresh missed one refresh, which was the latest when it came in. -/
theorem Decided.missed_eq (hd : Decided i body o h) (hb : (passage i h).begun = false) :
    missed i (tillEntry i h) = [o] ∧ (outcomes (tillEntry i h)).head? = some o := by
  cases hd with
  | own hpassed hwaited hcame =>
    rw [hpassed] at hb
    cases hb
  | shared hpassed hwaited =>
    refine ⟨hwaited, ?_⟩
    rw [outcomes_missed i, hwaited]
    rfl

/-- Those who arrive before the first refresh finishes come to its outcome, and only its own caller
refreshes. -/
theorem Orderly.first_shared {k : Nat} {early : List Moment} (ho : Orderly h)
    (hs : ⟨k, .settle o, ()⟩ :: early <:+ h) (hnone : outcomes early = [])
    (ha : (passage i early).arrived = true) :
    ((passage i h).begun = true ↔ i = k) ∧
      ∀ {body o'}, Decided i body o' h → o' = o := by
  obtain ⟨late, rfl⟩ := hs
  have hfirst := ho.begun_iff_first rfl hnone ha
  refine ⟨hfirst, fun {body o'} hd => ?_⟩
  cases hd with
  | own hpassed hwaited hcame =>
    have hik : i = k := hfirst.mp (by rw [hpassed])
    have hk : (⟨k, .settle o, ()⟩ : Moment) ∈ late ++ ⟨k, .settle o, ()⟩ :: early :=
      List.mem_append_right _ List.mem_cons_self
    exact ho.outcome_unique hcame.mem hk hik rfl rfl
  | shared hpassed hwaited =>
    have hsuffix : tillEntry i (late ++ ⟨k, .settle o, ()⟩ :: early) <:+
        late ++ ⟨k, .settle o, ()⟩ :: early :=
      (List.tail_suffix _).trans (List.dropWhile_suffix _)
    exact ho.missed_first rfl hnone ha hsuffix hwaited

end Result

section Runs

variable {e : Endpoint} {bodies : List (Script RefreshOutcome)}
  (free : ∀ body ∈ bodies, body.Asks fun c => c.isReserved = false) {w : World}
  {ts : List (Task Call Call.Answer RefreshOutcome)} {s : Scene}

include free

theorem gateOutline_start (fresh : w.gate = {}) :
    (gateOutline e bodies free).Holds ((bodies.mapIdx gateCaller).map .ready) ⟨w, []⟩ := by
  refine ⟨GateInv.init fresh, fun i t ht => ?_⟩
  simp only [List.getElem?_map, List.getElem?_mapIdx, Option.map_map, Option.map_eq_some_iff] at ht
  obtain ⟨body, hbody, rfl⟩ := ht
  exact ⟨body, hbody, rfl, rfl⟩

/-- Whatever happened, one of the callers did it, and rests now. -/
theorem resting_of_mem (run : Task.Reaches e.scenes ((bodies.mapIdx gateCaller).map .ready)
      ⟨w, []⟩ ts s) (rest : (gateOutline e bodies free).Holds ts s) {m : Moment} (hm : m ∈ s.past) :
    ∃ body t, bodies[m.task]? = some body ∧ Resting m.task body s t := by
  have hlt := reaches_past run m hm
  rw [← run.length] at hlt
  obtain ⟨body, hbody, ht⟩ := rest.2 m.task _ (List.getElem?_eq_getElem hlt)
  exact ⟨body, _, hbody, ht⟩

end Runs

/-- Whatever refreshes do and in whatever order their callers are polled, single flight holds. -/
theorem gate_run_single_flight (e : Endpoint) (bodies : List (Script RefreshOutcome))
    (free : ∀ body ∈ bodies, body.Asks fun c => c.isReserved = false) (w : World)
    (fresh : w.gate = {}) {ts : List (Task Call Call.Answer RefreshOutcome)} {s : Scene}
    (run : Task.Reaches e.scenes ((bodies.mapIdx gateCaller).map .ready) ⟨w, []⟩ ts s) :
    SingleFlight bodies ts s := by
  have hholds := (gateOutline e bodies free).reaches_holds run (gateOutline_start free fresh)
  have hinv : GateInv s := hholds.1
  have hrest := hholds.2
  constructor
  · exact fun h hs i j => (hinv.orderly.suffix hs).inProgress_unique
  · exact hinv.counted
  · exact hinv.latest
  · intro i o hm
    obtain ⟨body, t, hbody, ht⟩ := resting_of_mem free run hholds hm
    exact ⟨body, hbody, ht.settled hinv.orderly hm⟩
  · intro i before hs
    exact (hinv.orderly _ _ hs).tickets i (by simp [Moment.arrives])
  · intro i a before hs
    exact (hinv.orderly _ _ hs).counts i a rfl
  · intro i a before hs
    exact (hinv.orderly _ _ hs).looks i a rfl
  · intro i
    by_cases hi : ∃ m ∈ s.past, m.task = i
    · obtain ⟨m, hm, rfl⟩ := hi
      obtain ⟨body, t, -, ht⟩ := resting_of_mem free run hholds hm
      exact ht.refreshes
    · rw [passage_of_absent fun m hm ht => hi ⟨m, hm, ht⟩]
      simp
  · intro i o ht hb
    obtain ⟨body, -, hd⟩ := hrest i _ ht
    exact Decided.mem hd hb
  · intro i o ht hb
    obtain ⟨body, -, hd⟩ := hrest i _ ht
    exact Decided.missed_eq hd hb
  · intro i m before hs hm hb hi
    exact hinv.orderly.begun_finished hs hm hb hi
  · intro k o early hs hnone i ha
    obtain ⟨hfirst, hshared⟩ := hinv.orderly.first_shared hs hnone ha
    refine ⟨hfirst, fun o' ht => ?_⟩
    obtain ⟨body, -, hd⟩ := hrest i _ ht
    exact hshared hd

/-- The theorem at two callers, of which the second waits and shares the outcome of the first. -/
theorem gate_run_single_flight_of_two :
    let bodies : List (Script RefreshOutcome) :=
      [do Script.pause 2; return .ok (), return .error .missingRefreshToken]
    (∀ body ∈ bodies, body.Asks fun c => c.isReserved = false) ∧
      (stillWorld {} .least).gate = {} ∧
      ∃ ts s, Task.Reaches Endpoint.scripted.scenes ((bodies.mapIdx gateCaller).map .ready)
          ⟨stillWorld {} .least, []⟩ ts s ∧
        ts.map Task.result? = [some (.ok ()), some (.ok ())] ∧ SingleFlight bodies ts s := by
  intro bodies
  have free : ∀ body ∈ bodies, body.Asks fun c => c.isReserved = false := by
    intro body hbody
    rcases List.mem_cons.mp hbody with rfl | hbody
    · exact ⟨rfl, fun _ => trivial⟩
    · rw [List.mem_singleton.mp hbody]
      trivial
  have run := Task.passes_reaches Endpoint.scripted.scenes 4 ((bodies.mapIdx gateCaller).map .ready)
    ⟨stillWorld {} .least, []⟩
  exact ⟨free, rfl, _, _, run, rfl, gate_run_single_flight _ bodies free _ rfl run⟩

end BearerSession
