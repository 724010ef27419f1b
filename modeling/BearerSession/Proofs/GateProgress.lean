import BearerSession.Proofs.Discipline
import BearerSession.Proofs.PollingRounds
import BearerSession.Proofs.SingleFlight

namespace BearerSession

section Line

variable {i : Nat} {body : Script RefreshOutcome} {s : Scene}

theorem closing_unfinished (left : Script RefreshOutcome) (o : RefreshOutcome) :
    (left >>= closing) ≠ Program.done o := by
  cases left <;> nofun

theorem judging_unfinished (ticket completed : Nat) (last : Option RefreshOutcome)
    (o : RefreshOutcome) : judging i body ticket completed last ≠ Program.done o := by
  unfold judging
  split
  · nofun
  · exact closing_unfinished _ o

/-- What a call does to the line: others join it by their own calls only, and who has come to its
end has left it. -/
structure KeepsLine (i : Nat) {α : Type} (next : α → Script RefreshOutcome) (s s' : Scene) :
    Prop where
  once : s'.world.gate.lock.line.Nodup
  others : ∀ j, i ≠ j → j ∈ s'.world.gate.lock.line → j ∈ s.world.gate.lock.line
  left : ∀ a o, next a = Program.done o → i ∉ s'.world.gate.lock.line

theorem KeepsLine.of_same {α : Type} {next : α → Script RefreshOutcome} {s' : Scene}
    (once : s.world.gate.lock.line.Nodup) (same : s'.world.gate.lock = s.world.gate.lock)
    (unfinished : ∀ a o, next a ≠ Program.done o) : KeepsLine i next s s' := by
  refine ⟨?_, fun j _ hj => ?_, fun a o hdone => absurd hdone (unfinished a o)⟩
  · rw [same]
    exact once
  · rw [same] at hj
    exact hj

theorem Stage.keepsLine (e : Endpoint) (hi : GateInv s) (once : s.world.gate.lock.line.Nodup)
    {c : Call} {next : c.Answer → Script RefreshOutcome}
    (hs : Stage i body s (Program.ask c next)) : KeepsLine i next s (e.scenes.react i c s).2 := by
  cases hs with
  | start hp => exact .of_same once rfl fun _ _ => nofun
  | enter hl hh => exact .of_same once rfl fun _ _ => nofun
  | look hl hh hc => exact .of_same once rfl fun _ o => judging_unfinished _ _ _ o
  | reuse hh hd =>
    exact .of_same once (congrArg GateState.lock (World.write_gate s.world _)) fun _ _ => nofun
  | begin hh hp hm hw hsince => exact .of_same once rfl fun _ o => closing_unfinished body o
  | @seek ticket hp ht hread =>
    have hline : (e.scenes.react i .acquire s).2.world.gate.lock.line =
        s.world.gate.lock.line ++ [i] := Lock.acquire_line hi.fair i
    have hnew : i ∉ s.world.gate.lock.line := by
      intro hmem
      have harrived := hi.arrived i hmem
      rw [hp] at harrived
      cases harrived
    refine ⟨?_, fun j hj hmem => ?_, fun _ _ => nofun⟩
    · rw [hline]
      refine List.nodup_append.mpr ⟨once, List.nodup_singleton i, fun j hj k hk => ?_⟩
      rw [List.mem_singleton.mp hk]
      exact ne_of_mem_of_not_mem hj hnew
    · rw [hline] at hmem
      rcases List.mem_append.mp hmem with hmem | hmem
      · exact hmem
      · exact absurd (List.mem_singleton.mp hmem).symm hj
  | leave hh hd =>
    have hline : s.world.gate.lock.line =
        i :: (e.scenes.react i .release s).2.world.gate.lock.line := by
      rw [Lock.line_of_holder hh]
      exact congrArg _ (Lock.release_line _).symm
    rw [hline] at once
    obtain ⟨hgone, hrest⟩ := List.nodup_cons.mp once
    refine ⟨hrest, fun j _ hmem => ?_, fun _ _ _ => hgone⟩
    rw [hline]
    exact List.mem_cons_of_mem i hmem
  | @refresh p left hp hb =>
    cases left with
    | done o =>
      cases hp
      exact .of_same once rfl fun _ _ => nofun
    | ask c' next' =>
      cases hp
      exact .of_same once (congrArg GateState.lock (e.react_gate s.world i hb.free.1))
        fun _ o => closing_unfinished _ o

end Line

/-- The stages of all callers of a gate, of which those who have finished are not in line. -/
def lineOutline (e : Endpoint) (bodies : List (Script RefreshOutcome))
    (free : ∀ body ∈ bodies, body.Asks fun c => c.isReserved = false) :
    Outline e.scenes RefreshOutcome where
  inv s := GateInv s ∧ s.world.gate.lock.line.Nodup
  moves i p s := (gateOutline e bodies free).moves i p s ∧
    ∀ o, p = .done o → i ∉ s.world.gate.lock.line
  rests i t s := (gateOutline e bodies free).rests i t s ∧
    (t.isFinished = true → i ∉ s.world.gate.lock.line)
  ready := by
    rintro i p s ⟨hi, -⟩ ⟨hrest, -⟩
    have hmoves := (gateOutline e bodies free).ready hi hrest
    obtain ⟨body, hbody, rfl, hp⟩ := hrest
    exact ⟨hmoves, fun o => nofun⟩
  awake := by
    rintro i p s ⟨hi, -⟩ ⟨hrest, -⟩
    have hmoves := (gateOutline e bodies free).awake hi hrest
    obtain ⟨body, hbody, left, rfl, hb⟩ := hrest
    exact ⟨hmoves, fun o hdone => absurd hdone (closing_unfinished left o)⟩
  turn := by
    rintro i p s ⟨hi, -⟩ ⟨hrest, -⟩ hturn
    have hmoves := (gateOutline e bodies free).turn hi hrest hturn
    obtain ⟨body, hbody, ticket, rfl, hl⟩ := hrest
    exact ⟨hmoves, fun o => nofun⟩
  doze := by
    rintro i n p s ⟨hrest, -⟩
    exact ⟨(gateOutline e bodies free).doze hrest, nofun⟩
  done := by
    rintro i o s ⟨hi, -⟩ ⟨hmoves, hgone⟩
    exact ⟨(gateOutline e bodies free).done hi hmoves, fun _ => hgone o rfl⟩
  keep := by
    rintro i c next s ⟨hi, once⟩ ⟨hmoves, -⟩
    obtain ⟨body, hbody, hs⟩ := hmoves
    exact ⟨(gateOutline e bodies free).keep hi ⟨body, hbody, hs⟩, (hs.keepsLine e hi once).once⟩
  now := by
    rintro i c next s a ⟨hi, once⟩ ⟨hmoves, -⟩ hr
    obtain ⟨body, hbody, hs⟩ := hmoves
    exact ⟨(gateOutline e bodies free).now hi ⟨body, hbody, hs⟩ hr,
      fun o => (hs.keepsLine e hi once).left a o⟩
  later := by
    rintro i c next s n a ⟨hi, once⟩ ⟨hmoves, -⟩ hr
    obtain ⟨body, hbody, hs⟩ := hmoves
    obtain ⟨hnext, hrest⟩ := (gateOutline e bodies free).later hi ⟨body, hbody, hs⟩ hr
    exact ⟨⟨hnext, fun o => (hs.keepsLine e hi once).left a o⟩, fun k => ⟨hrest k, nofun⟩⟩
  queued := by
    rintro i c next s a ⟨hi, -⟩ ⟨hmoves, -⟩ hr
    exact ⟨(gateOutline e bodies free).queued hi hmoves hr, nofun⟩
  frame := by
    rintro i j c next t s hij ⟨hi, once⟩ ⟨hmoves, -⟩ ⟨hrest, hgone⟩
    obtain ⟨body, hbody, hs⟩ := hmoves
    refine ⟨(gateOutline e bodies free).frame hij hi ⟨body, hbody, hs⟩ hrest, fun hfin hmem => ?_⟩
    exact hgone hfin ((hs.keepsLine e hi once).others j hij hmem)

/-- Whether a refresh is suspended on its own work or some call can go on. -/
inductive Lively (e : Endpoint) (ts : List (Task Call Call.Answer RefreshOutcome)) (s : Scene) :
    Prop
  | suspended {i n p} (task : ts[i]? = some (.asleep n p)) (refreshing : InProgress i s.past)
  | able {i t p} (task : ts[i]? = some t) (goes : Task.Goes e.scenes i s t p)

section Progress

variable {e : Endpoint} {bodies : List (Script RefreshOutcome)}
  {ts : List (Task Call Call.Answer RefreshOutcome)} {w : World} {s : Scene}

theorem lineOutline_holds (free : ∀ body ∈ bodies, body.Asks fun c => c.isReserved = false)
    (fresh : w.gate = {})
    (run : Task.Reaches e.scenes ((bodies.mapIdx gateCaller).map .ready) ⟨w, []⟩ ts s) :
    (lineOutline e bodies free).Holds ts s := by
  refine (lineOutline e bodies free).reaches_holds run ⟨⟨GateInv.init fresh, ?_⟩, fun i t ht => ?_⟩
  · rw [fresh]
    exact List.nodup_nil
  · simp only [List.getElem?_map, List.getElem?_mapIdx, Option.map_map,
      Option.map_eq_some_iff] at ht
    obtain ⟨body, hbody, rfl⟩ := ht
    exact ⟨⟨body, hbody, rfl, rfl⟩, nofun⟩

/-- Whoever is in line is a caller who has not finished. -/
theorem unfinished_of_mem_line (free : ∀ body ∈ bodies, body.Asks fun c => c.isReserved = false)
    (fresh : w.gate = {})
    (run : Task.Reaches e.scenes ((bodies.mapIdx gateCaller).map .ready) ⟨w, []⟩ ts s) {j : Nat}
    (hj : j ∈ s.world.gate.lock.line) : ∃ t, ts[j]? = some t ∧ t.isFinished = false := by
  obtain ⟨⟨hinv, -⟩, hrest⟩ := lineOutline_holds free fresh run
  have hmoment : ∃ m ∈ s.past, m.task = j := by
    by_contra habsent
    push Not at habsent
    have harrived := hinv.arrived j hj
    rw [passage_of_absent habsent] at harrived
    cases harrived
  obtain ⟨m, hm, rfl⟩ := hmoment
  have hlt := reaches_past run m hm
  rw [← run.length] at hlt
  have ht := List.getElem?_eq_getElem hlt
  refine ⟨_, ht, ?_⟩
  cases hfin : (ts[m.task]).isFinished with
  | false => rfl
  | true => exact absurd hj ((hrest _ _ ht).2 hfin)

theorem lively_of_turn (free : ∀ body ∈ bodies, body.Asks fun c => c.isReserved = false)
    (fresh : w.gate = {})
    (run : Task.Reaches e.scenes ((bodies.mapIdx gateCaller).map .ready) ⟨w, []⟩ ts s) {i : Nat}
    {t : Task Call Call.Answer RefreshOutcome} (ht : ts[i]? = some t)
    (hopen : t.isFinished = false)
    (hturn : ∀ p, t = .waiting p → s.world.gate.lock.holder = some i) : Lively e ts s := by
  obtain ⟨-, hrest⟩ := lineOutline_holds free fresh run
  cases t with
  | ready p => exact .able ht .ready
  | waiting p => exact .able ht (.turn (decide_eq_true (hturn p rfl)))
  | finished o => cases hopen
  | asleep n p =>
    obtain ⟨⟨body, -, left, -, hbody⟩, -⟩ := hrest i _ ht
    have hprogress : InProgress i s.past := by
      unfold InProgress
      rw [hbody.passed]
      exact ⟨rfl, rfl⟩
    exact .suspended ht hprogress

/-- Where nobody but those in line is left, it is the turn of the first of them. -/
theorem lively_of_unfinished (free : ∀ body ∈ bodies, body.Asks fun c => c.isReserved = false)
    (fresh : w.gate = {})
    (run : Task.Reaches e.scenes ((bodies.mapIdx gateCaller).map .ready) ⟨w, []⟩ ts s)
    (unfinished : ∃ t ∈ ts, t.isFinished = false) : Lively e ts s := by
  obtain ⟨⟨hinv, -⟩, hrest⟩ := lineOutline_holds free fresh run
  obtain ⟨t, hmem, hopen⟩ := unfinished
  obtain ⟨i, ht⟩ := List.getElem?_of_mem hmem
  cases hholder : s.world.gate.lock.holder with
  | some k =>
    have hk : k ∈ s.world.gate.lock.line := by
      rw [Lock.line_of_holder hholder]
      exact List.mem_cons_self
    obtain ⟨u, hu, hwaits⟩ := unfinished_of_mem_line free fresh run hk
    exact lively_of_turn free fresh run hu hwaits fun _ _ => hholder
  | none =>
    refine lively_of_turn free fresh run ht hopen fun p hp => ?_
    subst hp
    obtain ⟨⟨body, -, ticket, -, hline⟩, -⟩ := hrest i _ ht
    have hlined := hline.lined
    unfold Lock.line at hlined
    rw [hholder, hinv.fair hholder] at hlined
    cases hlined

theorem Lively.stirs (h : Lively e ts s) :
    ∃ i, ∃ t : Task Call Call.Answer RefreshOutcome, ts[i]? = some t ∧ t.Stirs e.scenes i s := by
  cases h with
  | suspended ht => exact ⟨_, _, ht, trivial⟩
  | able ht hgoes =>
    refine ⟨_, _, ht, ?_⟩
    cases hgoes with
    | ready => trivial
    | awake => trivial
    | turn hturn => exact hturn

theorem lock_free_of_finished (free : ∀ body ∈ bodies, body.Asks fun c => c.isReserved = false)
    (fresh : w.gate = {})
    (run : Task.Reaches e.scenes ((bodies.mapIdx gateCaller).map .ready) ⟨w, []⟩ ts s)
    (finished : ∀ t ∈ ts, t.isFinished = true) : s.world.gate.lock = {} := by
  have hline : s.world.gate.lock.line = [] := by
    refine List.eq_nil_iff_forall_not_mem.mpr fun j hj => ?_
    obtain ⟨t, ht, hopen⟩ := unfinished_of_mem_line free fresh run hj
    rw [finished t (List.mem_of_getElem? ht)] at hopen
    cases hopen
  obtain ⟨hholder, hqueue⟩ := List.append_eq_nil_iff.mp hline
  cases hlock : s.world.gate.lock with
  | mk holder queue =>
    rw [hlock] at hholder hqueue
    cases Option.toList_eq_nil_iff.mp hholder
    cases hqueue
    rfl

end Progress

/-- Whatever refreshes do and in whatever order their callers are polled, as long as a call is
unfinished a refresh is suspended on its own work or some call can go on. If every round polls all
calls that are unfinished, in any order, all finish after finitely many rounds; and when all have
finished nobody holds the gate or waits for it. -/
theorem gate_run_never_stuck (e : Endpoint) (bodies : List (Script RefreshOutcome))
    (free : ∀ body ∈ bodies, body.Asks fun c => c.isReserved = false) (w : World)
    (fresh : w.gate = {}) {ts : List (Task Call Call.Answer RefreshOutcome)} {s : Scene}
    (run : Task.Reaches e.scenes ((bodies.mapIdx gateCaller).map .ready) ⟨w, []⟩ ts s) :
    ((∃ t ∈ ts, t.isFinished = false) → Lively e ts s) ∧
    (∀ orders : Nat → List Nat,
      (∀ n i t, (Task.rounds e.scenes orders (ts, s) n).1[i]? = some t → t.isFinished = false →
        i ∈ orders n) →
      ∃ n, ∀ t ∈ (Task.rounds e.scenes orders (ts, s) n).1, t.isFinished = true) ∧
    (∃ n, ∀ t ∈ (Task.passes e.scenes n ts s).1, t.isFinished = true) ∧
    ((∀ t ∈ ts, t.isFinished = true) → s.world.gate.lock = {}) := by
  have hends (orders : Nat → List Nat)
      (polled : ∀ n i t, (Task.rounds e.scenes orders (ts, s) n).1[i]? = some t →
        t.isFinished = false → i ∈ orders n) :
      ∃ n, ∀ t ∈ (Task.rounds e.scenes orders (ts, s) n).1, t.isFinished = true := by
    refine Task.exists_rounds_finished (fun ts' s' more unfinished => ?_) polled
    exact (lively_of_unfinished free fresh (run.trans more) unfinished).stirs
  refine ⟨lively_of_unfinished free fresh run, hends, ?_, lock_free_of_finished free fresh run⟩
  obtain ⟨n, hn⟩ := hends (fun _ => List.range ts.length) fun n i t ht _ => by
    have hlt := (List.getElem?_eq_some_iff.mp ht).1
    rw [(Task.rounds_reaches _ (ts, s) n).length] at hlt
    exact List.mem_range.mpr hlt
  refine ⟨n, ?_⟩
  have hpasses : Task.passes e.scenes n ts s = Task.rounds e.scenes _ (ts, s) n :=
    Task.passes_eq_rounds n (ts, s)
  rw [hpasses]
  exact hn

/-- The theorem where a refresh that will fail is under way and two more callers wait. -/
theorem gate_run_never_stuck_of_failing :
    let bodies : List (Script RefreshOutcome) :=
      [do Script.pause 3; return .error .missingRefreshToken, return .ok (),
        do Script.pause 1; return .ok ()]
    (∀ body ∈ bodies, body.Asks fun c => c.isReserved = false) ∧
      (stillWorld {} .least).gate = {} ∧
      ∃ ts s, Task.Reaches Endpoint.scripted.scenes ((bodies.mapIdx gateCaller).map .ready)
          ⟨stillWorld {} .least, []⟩ ts s ∧
        ts.map Task.isFinished = [false, false, false] ∧
        s.world.gate.lock = ⟨some 0, [1, 2]⟩ ∧ Lively Endpoint.scripted ts s ∧
        ∃ n, ∀ t ∈ (Task.passes Endpoint.scripted.scenes n ts s).1, t.isFinished = true := by
  intro bodies
  have free : ∀ body ∈ bodies, body.Asks fun c => c.isReserved = false := by
    intro body hbody
    simp only [bodies, List.mem_cons, List.not_mem_nil, or_false] at hbody
    rcases hbody with rfl | rfl | rfl
    · exact ⟨rfl, fun _ => trivial⟩
    · trivial
    · exact ⟨rfl, fun _ => trivial⟩
  have run := Task.passes_reaches Endpoint.scripted.scenes 1 ((bodies.mapIdx gateCaller).map .ready)
    ⟨stillWorld {} .least, []⟩
  obtain ⟨hlively, -, hfinish, -⟩ := gate_run_never_stuck _ bodies free _ rfl run
  exact ⟨free, rfl, _, _, run, rfl, rfl, hlively ⟨_, List.mem_cons_self, rfl⟩, hfinish⟩

end BearerSession
