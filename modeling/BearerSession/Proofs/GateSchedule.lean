import BearerSession.Proofs.GateInvariant

namespace BearerSession

/-- A task that waits for the gate with a ticket. -/
structure InLine (i ticket : Nat) (s : Scene) : Prop where
  passed : passage i s.past = { arrived := true }
  lined : i ∈ s.world.gate.lock.line
  ticket : ticket + (missed i s.past).length = (outcomes s.past).length

/-- A task in the middle of its refresh, of which a part is left. -/
structure InBody (i : Nat) (body left : Script RefreshOutcome) (s : Scene) : Prop where
  passed : passage i s.past = { arrived := true, entered := true, begun := true }
  holds : s.world.gate.lock.holder = some i
  fresh : missed i s.past = []
  waited : missed i (tillEntry i s.past) = []
  free : left.Asks fun c => c.isReserved = false
  path : Leads i (announced i body) (sinceEntry i s.past) left

/-- The refresh of a task came to an outcome, which was recorded. -/
def CameTo (i : Nat) (body : Script RefreshOutcome) (o : RefreshOutcome) (h : List Moment) : Prop :=
  ∃ later during, sinceEntry i h = later ++ ⟨i, .settle o, ()⟩ :: during ∧
    Leads i (announced i body) during (.done o)

/-- The outcome of a task is that of its own refresh, or the only one it waited for. -/
inductive Decided (i : Nat) (body : Script RefreshOutcome) (o : RefreshOutcome) (h : List Moment) :
    Prop
  | own : passage i h = { arrived := true, entered := true, begun := true, finished := true } →
      missed i (tillEntry i h) = [] → CameTo i body o h → Decided i body o h
  | shared : passage i h = { arrived := true, entered := true } →
      missed i (tillEntry i h) = [o] → Decided i body o h

/-- What holds of a running task by what is left of it. -/
inductive Stage (i : Nat) (body : Script RefreshOutcome) (s : Scene) : Script RefreshOutcome → Prop
  | start : passage i s.past = {} → Stage i body s (Program.ask .completed (seeking i body))
  | seek {ticket} : passage i s.past = {} → ticket = (outcomes s.past).length →
      (∃ earlier, s.past = ⟨i, .completed, (outcomes earlier).length⟩ :: earlier) →
      Stage i body s (Program.ask .acquire fun _ => entering i body ticket)
  | enter {ticket} : InLine i ticket s → s.world.gate.lock.holder = some i →
      Stage i body s (Program.ask .completed (looking i body ticket))
  | look {ticket completed} : InLine i ticket s → s.world.gate.lock.holder = some i →
      completed = (outcomes s.past).length →
      Stage i body s (Program.ask .last (judging i body ticket completed))
  | reuse {o} : s.world.gate.lock.holder = some i → Decided i body o s.past →
      Stage i body s
        (Program.ask (.log ⟨.debug, "Reusing outcome of concurrent refresh"⟩) fun _ => leaving o)
  | begin : s.world.gate.lock.holder = some i →
      passage i s.past = { arrived := true, entered := true } → missed i s.past = [] →
      missed i (tillEntry i s.past) = [] → sinceEntry i s.past = [] →
      Stage i body s (Program.ask (.note (.mark "begin" i)) fun _ => body >>= closing)
  | refresh {p left} : p = left >>= closing → InBody i body left s → Stage i body s p
  | leave {o} : s.world.gate.lock.holder = some i → Decided i body o s.past →
      Stage i body s (Program.ask .release fun _ => Program.done o)
  | gone {o} : Decided i body o s.past → Stage i body s (Program.done o)

/-- What follows a call, by the reaction to it. -/
def Stage.Next (i : Nat) (body : Script RefreshOutcome) {α : Type}
    (next : α → Script RefreshOutcome) (s : Scene) : Reaction α → Prop
  | .now a => Stage i body s (next a)
  | .later _ a => ∃ left, next a = left >>= closing ∧ InBody i body left s
  | .queued a => ∃ ticket, next a = entering i body ticket ∧ InLine i ticket s

section Frame

variable {i : Nat} {m : Moment} {h : List Moment} {body : Script RefreshOutcome}
  {o : RefreshOutcome}

theorem CameTo.cons (hc : CameTo i body o h) (hm : m.enters i = false) :
    CameTo i body o (m :: h) := by
  obtain ⟨later, during, hs, hl⟩ := hc
  refine ⟨m :: later, during, ?_, hl⟩
  rw [sinceEntry_cons hm, hs]
  rfl

theorem Decided.cons (hd : Decided i body o h) (hp : passage i (m :: h) = passage i h)
    (hm : m.enters i = false) : Decided i body o (m :: h) := by
  cases hd with
  | own hpassage hwaited hcame =>
    refine .own (hp.trans hpassage) ?_ (hcame.cons hm)
    rw [tillEntry_cons hm]
    exact hwaited
  | shared hpassage hwaited =>
    refine .shared (hp.trans hpassage) ?_
    rw [tillEntry_cons hm]
    exact hwaited

theorem Decided.not_inProgress (hd : Decided i body o h) : ¬ InProgress i h := by
  intro hp
  cases hd with
  | own hpassage _ _ =>
    have hf := hp.2
    rw [hpassage] at hf
    cases hf
  | shared hpassage _ =>
    have hb := hp.1
    rw [hpassage] at hb
    cases hb

theorem InLine.frame {s : Scene} {ticket : Nat} (hl : InLine i ticket s) (w : World)
    (hm : m.task ≠ i) (hline : i ∈ w.gate.lock.line) : InLine i ticket ⟨w, m :: s.past⟩ := by
  refine ⟨(passage_other hm).trans hl.passed, hline, ?_⟩
  rw [missed_cons (arrives_of_ne hm), outcomes_cons, List.length_append, List.length_append]
  have ht := hl.ticket
  omega

theorem InBody.frame {s : Scene} {left : Script RefreshOutcome} (hb : InBody i body left s)
    (w : World) (hm : m.task ≠ i) (hh : w.gate.lock.holder = some i)
    (hout : m.call.outcome? = none) : InBody i body left ⟨w, m :: s.past⟩ := by
  refine ⟨(passage_other hm).trans hb.passed, hh, ?_, ?_, hb.free, ?_⟩
  · rw [missed_cons (arrives_of_ne hm), hout]
    exact hb.fresh
  · rw [tillEntry_cons (enters_of_ne hm)]
    exact hb.waited
  · rw [sinceEntry_cons (enters_of_ne hm)]
    exact .other hm hb.path

end Frame

section Surroundings

variable (w : World)

theorem Endpoint.react_gate (e : Endpoint) (i : Nat) {c : Call} (hc : c.isReserved = false) :
    (e.react i c w).2.gate = w.gate := by
  cases c with
  | get key => exact World.get_gate w key
  | set key value ttl => exact World.set_gate w key value ttl
  | remove key => exact World.remove_gate w key
  | log line => exact World.write_gate w line
  | supply =>
    unfold Endpoint.react World.react
    cases hs : w.supplies <;> rfl
  | last => cases hc
  | settle o => cases hc
  | acquire => cases hc
  | release => cases hc
  | _ => rfl

theorem Endpoint.react_not_queued (e : Endpoint) (i : Nat) {c : Call} (hc : c.isReserved = false)
    (a : c.Answer) : (e.react i c w).1 ≠ .queued a := by
  cases c with
  | supply =>
    unfold Endpoint.react World.react
    cases hs : w.supplies <;> simp
  | last => cases hc
  | settle o => cases hc
  | acquire => cases hc
  | release => cases hc
  | _ => intro hr; cases hr

theorem Endpoint.react_reads (e : Endpoint) (i : Nat) (c : Call) :
    (⟨i, c, (e.react i c w).1.answer⟩ : Moment).Reads w.gate := by
  constructor
  · intro j b hm
    cases hm
    rfl
  · intro j b hm
    cases hm
    rfl

end Surroundings

section Steps

variable {e : Endpoint} {i : Nat} {body : Script RefreshOutcome} {s : Scene}

theorem passage_unreserved {p : Passage} {c : Call} (hc : c.isReserved = false)
    (hp : p.begun = true) : p.after c = p := by
  cases c with
  | last => cases hc
  | settle o => cases hc
  | acquire => cases hc
  | release => cases hc
  | _ => cases p; cases hp; rfl

theorem InBody.step {c : Call} {next : c.Answer → Script RefreshOutcome} (hi : GateInv s)
    (hb : InBody i body (Program.ask c next) s) {a : c.Answer} {w : World}
    (hg : w.gate = s.world.gate) (hread : (⟨i, c, a⟩ : Moment).Reads s.world.gate) :
    GateInv ⟨w, ⟨i, c, a⟩ :: s.past⟩ ∧ InBody i body (next a) ⟨w, ⟨i, c, a⟩ :: s.past⟩ := by
  obtain ⟨hc, hnext⟩ := hb.free
  have hout : c.outcome? = none := by cases c <;> first | rfl | cases hc
  have harr : ∀ j, (⟨i, c, a⟩ : Moment).arrives j = false := by
    intro j
    cases c <;> first | rfl | cases hc
  have hent : (⟨i, c, a⟩ : Moment).enters i = false := by cases c <;> first | rfl | cases hc
  have hpassage : passage i (⟨i, c, a⟩ :: s.past) = passage i s.past := by
    rw [passage_mk]
    exact passage_unreserved hc (by rw [hb.passed])
  constructor
  · refine hi.quiet hg hout harr hread fun _ => ⟨?_, hb.fresh, hb.holds⟩
    rw [hb.passed]
  · refine ⟨hpassage.trans hb.passed, ?_, ?_, ?_, hnext a, ?_⟩
    · rw [hg]
      exact hb.holds
    · rw [missed_cons (harr i), hout]
      exact hb.fresh
    · rw [tillEntry_cons hent]
      exact hb.waited
    · rw [sinceEntry_cons hent]
      exact .own hb.path

theorem InBody.close {o : RefreshOutcome} (hi : GateInv s) (hb : InBody i body (Program.done o) s)
    {w : World} (hg : w.gate = { s.world.gate with
      last := some o, completed := s.world.gate.completed + 1 }) :
    GateInv ⟨w, ⟨i, .settle o, ()⟩ :: s.past⟩ ∧
      Stage i body ⟨w, ⟨i, .settle o, ()⟩ :: s.past⟩ (leaving o) := by
  have hp : InProgress i s.past := by
    constructor
    · rw [hb.passed]
    · rw [hb.passed]
  refine ⟨hi.settle hp hb.fresh hg, .leave ?_ (.own ?_ ?_ ?_)⟩
  · rw [hg]
    exact hb.holds
  · rw [passage_mk, hb.passed]
    rfl
  · refine Eq.trans ?_ hb.waited
    exact congrArg (missed i) (tillEntry_cons rfl)
  · refine ⟨[], sinceEntry i s.past, ?_, hb.path⟩
    rw [sinceEntry_cons rfl]
    rfl

theorem Stage.start_step (hi : GateInv s) (hp : passage i s.past = {}) (a : Nat)
    (ha : a = s.world.gate.completed) :
    GateInv ⟨s.world, ⟨i, .completed, a⟩ :: s.past⟩ ∧
      Stage i body ⟨s.world, ⟨i, .completed, a⟩ :: s.past⟩ (seeking i body a) := by
  refine ⟨hi.count ha, .seek ?_ ?_ ?_⟩
  · rw [passage_mk, hp]
    rfl
  · rw [ha]
    exact hi.counted
  · refine ⟨s.past, ?_⟩
    rw [ha, hi.counted]

theorem InLine.of_acquire {ticket : Nat} {w : World} (hi : GateInv s) (hp : passage i s.past = {})
    (ht : ticket = (outcomes s.past).length)
    (hw : w.gate = { s.world.gate with lock := s.world.gate.lock.acquire i }) :
    InLine i ticket ⟨w, ⟨i, .acquire, ()⟩ :: s.past⟩ := by
  refine ⟨?_, ?_, ?_⟩
  · rw [passage_mk, hp]
    rfl
  · rw [hw]
    show i ∈ (s.world.gate.lock.acquire i).line
    rw [Lock.acquire_line hi.fair]
    exact List.mem_append_right _ (List.mem_singleton_self i)
  · have hnone : missed i (⟨i, .acquire, ()⟩ :: s.past) = [] :=
      missed_arrival (by simp [Moment.arrives])
    rw [hnone]
    exact ht

theorem Stage.enter_step {ticket : Nat} (hi : GateInv s) (hl : InLine i ticket s)
    (hh : s.world.gate.lock.holder = some i) (a : Nat) (ha : a = s.world.gate.completed) :
    GateInv ⟨s.world, ⟨i, .completed, a⟩ :: s.past⟩ ∧
      Stage i body ⟨s.world, ⟨i, .completed, a⟩ :: s.past⟩ (looking i body ticket a) := by
  refine ⟨hi.count ha, .look ⟨?_, hl.lined, ?_⟩ hh ?_⟩
  · rw [passage_mk, hl.passed]
    rfl
  · exact hl.ticket
  · rw [ha]
    exact hi.counted

theorem Stage.look_step {ticket completed : Nat} (hi : GateInv s) (hl : InLine i ticket s)
    (hh : s.world.gate.lock.holder = some i) (hc : completed = (outcomes s.past).length)
    (a : Option RefreshOutcome) (ha : a = s.world.gate.last) :
    GateInv ⟨s.world, ⟨i, .last, a⟩ :: s.past⟩ ∧
      Stage i body ⟨s.world, ⟨i, .last, a⟩ :: s.past⟩ (judging i body ticket completed a) := by
  have hent : (⟨i, .last, a⟩ : Moment).enters i = true := by simp [Moment.enters]
  have hpassed : passage i (⟨i, .last, a⟩ :: s.past) = { arrived := true, entered := true } := by
    rw [passage_mk, hl.passed]
    rfl
  have hentry : tillEntry i (⟨i, .last, a⟩ :: s.past) = s.past := tillEntry_entry hent
  have hshort := hi.short i hl.lined
  have hticket := hl.ticket
  refine ⟨hi.look ha, ?_⟩
  cases hm : missed i s.past with
  | nil =>
    rw [hm] at hticket
    have hlt : ¬ ticket < completed := by
      rw [hc, ← hticket]
      exact Nat.lt_irrefl _
    have hj : judging i body ticket completed a = announced i body >>= closing := by
      unfold judging
      rw [if_neg hlt]
    rw [hj]
    refine .begin hh hpassed hm ?_ (sinceEntry_entry hent)
    rw [hentry]
    exact hm
  | cons o rest =>
    have hrest : rest = [] := by
      rw [hm, List.length_cons] at hshort
      exact List.eq_nil_of_length_eq_zero (by omega)
    have hlt : ticket < completed := by
      rw [hm, List.length_cons] at hticket
      omega
    have hlast : a = some o := by
      rw [ha, hi.latest, outcomes_missed i, hm]
      rfl
    have hj : judging i body ticket completed a = reusing o := by
      unfold judging
      rw [if_pos hlt, hlast]
    rw [hj]
    refine .reuse hh (.shared hpassed ?_)
    rw [hentry, hm, hrest]

theorem Stage.begin_step (hfree : body.Asks fun c => c.isReserved = false) (hi : GateInv s)
    {w : World} (hg : w.gate = s.world.gate) (hh : s.world.gate.lock.holder = some i)
    (hp : passage i s.past = { arrived := true, entered := true }) (hm : missed i s.past = [])
    (hw : missed i (tillEntry i s.past) = []) (hsince : sinceEntry i s.past = []) :
    GateInv ⟨w, ⟨i, .note (.mark "begin" i), ()⟩ :: s.past⟩ ∧
      InBody i body body ⟨w, ⟨i, .note (.mark "begin" i), ()⟩ :: s.past⟩ := by
  constructor
  · exact hi.begin hg (by rw [hp]) hm hh
  · have hpath : Leads i (announced i body) []
        (Program.ask (.note (.mark "begin" i)) fun _ => body) := .start
    refine ⟨?_, ?_, hm, hw, hfree, ?_⟩
    · rw [passage_mk, hp]
      rfl
    · rw [hg]
      exact hh
    · rw [sinceEntry_cons rfl, hsince]
      exact .own hpath

theorem Stage.reuse_step {o : RefreshOutcome} {line : LogLine} {w : World} (hi : GateInv s)
    (hg : w.gate = s.world.gate) (hh : s.world.gate.lock.holder = some i)
    (hd : Decided i body o s.past) :
    GateInv ⟨w, ⟨i, .log line, ()⟩ :: s.past⟩ ∧
      Stage i body ⟨w, ⟨i, .log line, ()⟩ :: s.past⟩ (leaving o) := by
  refine ⟨hi.log hg, .leave ?_ (hd.cons ?_ rfl)⟩
  · rw [hg]
    exact hh
  · rw [passage_mk]
    exact congrArg (fun b => { passage i s.past with begun := b }) (Bool.or_false _)

theorem Stage.leave_step {o : RefreshOutcome} {w : World} (hi : GateInv s)
    (hg : w.gate = { s.world.gate with lock := s.world.gate.lock.release })
    (hh : s.world.gate.lock.holder = some i) (hd : Decided i body o s.past) :
    GateInv ⟨w, ⟨i, .release, ()⟩ :: s.past⟩ ∧
      Stage i body ⟨w, ⟨i, .release, ()⟩ :: s.past⟩ (Program.done o) := by
  refine ⟨hi.release hh hd.not_inProgress hg, .gone (hd.cons ?_ rfl)⟩
  rw [passage_mk]
  exact congrArg (fun b => { passage i s.past with begun := b }) (Bool.or_false _)

theorem Stage.seek_step {ticket : Nat} {w : World} (hi : GateInv s) (hp : passage i s.past = {})
    (ht : ticket = (outcomes s.past).length)
    (hread : ∃ earlier, s.past = ⟨i, .completed, (outcomes earlier).length⟩ :: earlier)
    (hw : w.gate = { s.world.gate with lock := s.world.gate.lock.acquire i }) :
    GateInv ⟨w, ⟨i, .acquire, ()⟩ :: s.past⟩ ∧
      Stage.Next i body (fun _ : Unit => entering i body ticket) ⟨w, ⟨i, .acquire, ()⟩ :: s.past⟩
        (if s.world.gate.lock.holder.isNone then .now () else .queued ()) := by
  have hl := InLine.of_acquire hi hp ht hw
  refine ⟨hi.acquire (by rw [hp]) hread hw, ?_⟩
  cases hh : s.world.gate.lock.holder with
  | none =>
    refine .enter hl ?_
    rw [hw]
    exact Lock.acquire_holder i hh
  | some k => exact ⟨ticket, rfl, hl⟩

theorem Stage.refresh_step (e : Endpoint) {c : Call} {next : c.Answer → Script RefreshOutcome}
    {left : Script RefreshOutcome} (hp : Program.ask c next = left >>= closing) (hi : GateInv s)
    (hb : InBody i body left s) :
    GateInv (e.scenes.react i c s).2 ∧
      Stage.Next i body next (e.scenes.react i c s).2 (e.scenes.react i c s).1 := by
  cases left with
  | done o =>
    cases hp
    exact hb.close hi rfl
  | ask c' next' =>
    cases hp
    have hc := hb.free.1
    obtain ⟨hinv, hbody⟩ := hb.step hi (e.react_gate s.world i hc) (e.react_reads s.world i c)
    have hleft : ∀ a, (e.react i c s.world).1.answer = a →
        InBody i body (next' a) (e.scenes.react i c s).2 := by
      rintro a rfl
      exact hbody
    refine ⟨hinv, ?_⟩
    show Stage.Next i body _ _ (e.react i c s.world).1
    cases hr : (e.react i c s.world).1 with
    | now a => exact .refresh rfl (hleft a (by rw [hr]; rfl))
    | later n a => exact ⟨next' a, rfl, hleft a (by rw [hr]; rfl)⟩
    | queued a => exact absurd hr (e.react_not_queued s.world i hc a)

/-- Every call keeps the invariant and leads to the next stage. -/
theorem Stage.step (e : Endpoint) (hfree : body.Asks fun c => c.isReserved = false) (hi : GateInv s)
    {c : Call} {next : c.Answer → Script RefreshOutcome}
    (hs : Stage i body s (Program.ask c next)) :
    GateInv (e.scenes.react i c s).2 ∧
      Stage.Next i body next (e.scenes.react i c s).2 (e.scenes.react i c s).1 := by
  cases hs with
  | start hp => exact Stage.start_step hi hp _ rfl
  | seek hp ht hread => exact Stage.seek_step hi hp ht hread rfl
  | enter hl hh => exact Stage.enter_step hi hl hh _ rfl
  | look hl hh hc => exact Stage.look_step hi hl hh hc _ rfl
  | reuse hh hd => exact Stage.reuse_step hi (World.write_gate s.world _) hh hd
  | begin hh hp hm hw hsince =>
    have hg : (s.world.note (.mark "begin" i)).gate = s.world.gate := rfl
    obtain ⟨hinv, hbody⟩ := Stage.begin_step hfree hi hg hh hp hm hw hsince
    exact ⟨hinv, .refresh rfl hbody⟩
  | refresh hp hb => exact Stage.refresh_step e hp hi hb
  | leave hh hd => exact Stage.leave_step hi rfl hh hd

end Steps

end BearerSession
