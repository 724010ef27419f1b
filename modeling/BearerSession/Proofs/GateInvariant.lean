import BearerSession.Proofs.GateStage

namespace BearerSession

/-- What holds of a gate between any two calls. Those in line missed at most one refresh each, and
nobody more than those before. -/
structure GateInv (s : Scene) : Prop where
  counted : s.world.gate.completed = (outcomes s.past).length
  latest : s.world.gate.last = (outcomes s.past).head?
  fair : s.world.gate.lock.IsFair
  arrived : ∀ j ∈ s.world.gate.lock.line, (passage j s.past).arrived = true
  sorted : s.world.gate.lock.line.Pairwise fun a b =>
    (missed b s.past).length ≤ (missed a s.past).length
  short : ∀ j ∈ s.world.gate.lock.line, (missed j s.past).length ≤ 1
  holding : ∀ j, InProgress j s.past → s.world.gate.lock.holder = some j
  orderly : Orderly s.past

/-- Whether a moment tells the truth about a gate if it is a look at it. -/
structure Moment.Reads (m : Moment) (g : GateState) : Prop where
  completed : ∀ i a, m = ⟨i, .completed, a⟩ → a = g.completed
  last : ∀ i a, m = ⟨i, .last, a⟩ → a = g.last

namespace GateInv

variable {s : Scene} {w : World} {m : Moment} {i : Nat}

theorem init (hw : w.gate = {}) : GateInv ⟨w, []⟩ := by
  constructor
  · rw [hw]; rfl
  · rw [hw]; rfl
  · rw [hw]; intro; rfl
  · rw [hw]; intro j hj; cases hj
  · rw [hw]; exact .nil
  · rw [hw]; intro j hj; cases hj
  · intro j hj; cases hj.1
  · exact orderly_nil

theorem missed_quiet (hout : m.call.outcome? = none) (harr : ∀ j, m.arrives j = false) (j : Nat) :
    missed j (m :: s.past) = missed j s.past := by
  rw [missed_cons (harr j), hout]
  rfl

theorem outcomes_quiet (hout : m.call.outcome? = none) :
    outcomes (m :: s.past) = outcomes s.past := by
  rw [outcomes_cons, hout]
  rfl

/-- A call that leaves the gate as it is keeps the invariant, if refreshes begin in order. -/
theorem quiet (hi : GateInv s) (hg : w.gate = s.world.gate) (hout : m.call.outcome? = none)
    (harr : ∀ j, m.arrives j = false)
    (hread : m.Reads s.world.gate)
    (hb : m.call.begins = true → (passage m.task s.past).arrived = true ∧
      missed m.task s.past = [] ∧ s.world.gate.lock.holder = some m.task) :
    GateInv ⟨w, m :: s.past⟩ := by
  have hfits : m.Fits s.past := by
    have hnot : ∀ j, ¬ m.arrives j = true := by
      intro j hj
      rw [harr j] at hj
      cases hj
    refine ⟨fun j hj => absurd hj (hnot j), fun j hj => absurd hj (hnot j),
      fun j a hm => (hread.completed j a hm).trans hi.counted,
      fun j a hm => (hread.last j a hm).trans hi.latest, fun hm => ?_, fun hm => absurd hout hm⟩
    · obtain ⟨ha, hmissed, hh⟩ := hb hm
      refine ⟨ha, hmissed, fun j hj => ?_⟩
      exact Option.some.inj ((hi.holding j hj).symm.trans hh)
  constructor
  · rw [hg, outcomes_quiet hout]; exact hi.counted
  · rw [hg, outcomes_quiet hout]; exact hi.latest
  · rw [hg]; exact hi.fair
  · rw [hg]
    intro j hj
    rw [passage_arrived_cons, hi.arrived j hj, Bool.or_true]
  · rw [hg]
    simp only [missed_quiet hout harr]
    exact hi.sorted
  · rw [hg]
    simp only [missed_quiet hout harr]
    exact hi.short
  · rw [hg]
    intro j hj
    rcases inProgress_cons hj with hj | ⟨rfl, hm⟩
    · exact hi.holding j hj
    · exact (hb hm).2.2
  · exact orderly_cons hfits hi.orderly

theorem count (hi : GateInv s) {a : Nat} (ha : a = s.world.gate.completed) :
    GateInv ⟨s.world, ⟨i, .completed, a⟩ :: s.past⟩ := by
  refine hi.quiet rfl rfl (fun _ => rfl) ⟨fun j b hm => ?_, fun j b hm => nomatch hm⟩
    fun hb => nomatch hb
  cases hm
  exact ha

theorem look (hi : GateInv s) {a : Option RefreshOutcome} (ha : a = s.world.gate.last) :
    GateInv ⟨s.world, ⟨i, .last, a⟩ :: s.past⟩ := by
  refine hi.quiet rfl rfl (fun _ => rfl) ⟨fun j b hm => (nomatch hm), fun j b hm => ?_⟩
    fun hb => nomatch hb
  cases hm
  exact ha

theorem log (hi : GateInv s) {line : LogLine} (hg : w.gate = s.world.gate) :
    GateInv ⟨w, ⟨i, .log line, ()⟩ :: s.past⟩ :=
  hi.quiet hg rfl (fun _ => rfl) ⟨fun _ _ hm => (nomatch hm), fun _ _ hm => nomatch hm⟩
    fun hb => nomatch hb

theorem begin (hi : GateInv s) (hg : w.gate = s.world.gate)
    (ha : (passage i s.past).arrived = true) (hm : missed i s.past = [])
    (hh : s.world.gate.lock.holder = some i) :
    GateInv ⟨w, ⟨i, .note (.mark "begin" i), ()⟩ :: s.past⟩ :=
  hi.quiet hg rfl (fun _ => rfl) ⟨fun _ _ hm => (nomatch hm), fun _ _ hm => nomatch hm⟩
    fun _ => ⟨ha, hm, hh⟩

section Arrival

variable {h : List Moment} {j : Nat}

/-- A moment that is neither an arrival nor a look nor a beginning fits if it finishes nothing, or
what is in progress. -/
theorem fits_plain (harr : ∀ j, m.arrives j = false) (hc : m.call ≠ .completed)
    (hl : m.call ≠ .last) (hb : m.call.begins = false)
    (hf : m.call.outcome? ≠ none → InProgress m.task h) : m.Fits h where
  once j hj := nomatch (harr j).symm.trans hj
  tickets j hj := nomatch (harr j).symm.trans hj
  counts _ _ hm := absurd (congrArg Moment.call hm) hc
  looks _ _ hm := absurd (congrArg Moment.call hm) hl
  begins hm := nomatch hb.symm.trans hm
  finishes := hf

/-- Who lines up has arrived at the gate for the first time, with the ticket just read. -/
theorem fits_acquire (ha : (passage i h).arrived = false)
    (ht : ∃ earlier, h = ⟨i, .completed, (outcomes earlier).length⟩ :: earlier) :
    Moment.Fits ⟨i, .acquire, ()⟩ h := by
  refine ⟨fun j hj => ?_, fun j hj => ?_, fun _ _ hm => (nomatch hm), fun _ _ hm => (nomatch hm),
    fun hm => (nomatch hm), fun hm => absurd rfl hm⟩
  · have hji : i = j := arrives_task hj
    rw [← hji]
    exact ha
  · have hji : i = j := arrives_task hj
    rw [← hji]
    exact ht

/-- The arrival of one is nothing that others miss. -/
theorem missed_acquire (hj : i ≠ j) : missed j (⟨i, .acquire, ()⟩ :: h) = missed j h := by
  rw [missed_cons (arrives_of_ne hj)]
  rfl

theorem missed_own_acquire : missed i (⟨i, .acquire, ()⟩ :: h) = [] :=
  missed_arrival (by simp [Moment.arrives])

theorem not_mem_line (hi : GateInv s) (ha : (passage i s.past).arrived = false) :
    i ∉ s.world.gate.lock.line := by
  intro hmem
  rw [hi.arrived i hmem] at ha
  cases ha

/-- Who comes last missed no more than those before, and those before missed no more by it. -/
theorem sorted_acquire (hi : GateInv s) (new : i ∉ s.world.gate.lock.line) :
    (s.world.gate.lock.line ++ [i]).Pairwise fun a b =>
      (missed b (⟨i, .acquire, ()⟩ :: s.past)).length ≤
        (missed a (⟨i, .acquire, ()⟩ :: s.past)).length := by
  refine List.pairwise_append.mpr ⟨?_, List.pairwise_singleton .., ?_⟩
  · refine hi.sorted.imp_of_mem fun hx hy hxy => ?_
    rw [missed_acquire (ne_of_mem_of_not_mem hx new).symm,
      missed_acquire (ne_of_mem_of_not_mem hy new).symm]
    exact hxy
  · intro x hx y hy
    rw [List.mem_singleton.mp hy, missed_own_acquire]
    exact Nat.zero_le _

theorem short_acquire (hi : GateInv s) (new : i ∉ s.world.gate.lock.line) :
    ∀ j ∈ s.world.gate.lock.line ++ [i],
      (missed j (⟨i, .acquire, ()⟩ :: s.past)).length ≤ 1 := by
  intro j hj
  rcases List.mem_append.mp hj with hj | hj
  · rw [missed_acquire (ne_of_mem_of_not_mem hj new).symm]
    exact hi.short j hj
  · rw [List.mem_singleton.mp hj, missed_own_acquire]
    exact Nat.zero_le _

theorem arrived_acquire (hi : GateInv s) :
    ∀ j ∈ s.world.gate.lock.line ++ [i],
      (passage j (⟨i, .acquire, ()⟩ :: s.past)).arrived = true := by
  intro j hj
  rw [passage_arrived_cons]
  rcases List.mem_append.mp hj with hj | hj
  · rw [hi.arrived j hj, Bool.or_true]
  · rw [List.mem_singleton.mp hj]
    simp [Moment.arrives]

end Arrival

theorem acquire (hi : GateInv s) (ha : (passage i s.past).arrived = false)
    (ht : ∃ earlier, s.past = ⟨i, .completed, (outcomes earlier).length⟩ :: earlier)
    (hl : w.gate = { s.world.gate with lock := s.world.gate.lock.acquire i }) :
    GateInv ⟨w, ⟨i, .acquire, ()⟩ :: s.past⟩ := by
  have hnew := hi.not_mem_line ha
  have hline : w.gate.lock.line = s.world.gate.lock.line ++ [i] := by
    rw [hl]
    exact Lock.acquire_line hi.fair i
  constructor
  · rw [hl, outcomes_quiet rfl]; exact hi.counted
  · rw [hl, outcomes_quiet rfl]; exact hi.latest
  · rw [hl]; exact Lock.acquire_fair _ i
  · rw [hline]; exact hi.arrived_acquire
  · rw [hline]; exact hi.sorted_acquire hnew
  · rw [hline]; exact hi.short_acquire hnew
  · intro j hj
    rcases inProgress_cons hj with hj | ⟨-, hm⟩
    · rw [hl]
      exact Lock.acquire_holder_of_some i (hi.holding j hj)
    · cases hm
  · exact orderly_cons (fits_acquire ha ht) hi.orderly

theorem settle (hi : GateInv s) {o : RefreshOutcome} (hp : InProgress i s.past)
    (hm : missed i s.past = [])
    (hl : w.gate = { s.world.gate with
      last := some o, completed := s.world.gate.completed + 1 }) :
    GateInv ⟨w, ⟨i, .settle o, ()⟩ :: s.past⟩ := by
  have hh := hi.holding i hp
  have hone : ∀ j, missed j (⟨i, .settle o, ()⟩ :: s.past) = o :: missed j s.past :=
    fun j => missed_cons rfl
  have hline : w.gate.lock = s.world.gate.lock := by rw [hl]
  have hnone : ∀ j ∈ s.world.gate.lock.line, missed j s.past = [] := by
    intro j hj
    have hsorted := hi.sorted
    rw [Lock.line_of_holder hh] at hsorted hj
    rcases List.mem_cons.mp hj with rfl | hj
    · exact hm
    · have hle := (List.pairwise_cons.mp hsorted).1 j hj
      rw [hm] at hle
      exact List.eq_nil_of_length_eq_zero (Nat.le_zero.mp hle)
  constructor
  · rw [hl, outcomes_cons]
    show s.world.gate.completed + 1 = (o :: outcomes s.past).length
    rw [hi.counted, List.length_cons]
  · rw [hl, outcomes_cons]
    rfl
  · rw [hline]; exact hi.fair
  · rw [hline]
    intro j hj
    rw [passage_arrived_cons, hi.arrived j hj, Bool.or_true]
  · rw [hline]
    simp only [hone, List.length_cons, Nat.add_le_add_iff_right]
    exact hi.sorted
  · rw [hline]
    intro j hj
    rw [hone, hnone j hj]
    exact Nat.le_refl 1
  · intro j hj
    rw [hline]
    rcases inProgress_cons hj with hj | ⟨-, hm⟩
    · exact hi.holding j hj
    · cases hm
  · exact orderly_cons (fits_plain (fun _ => rfl) nofun nofun rfl fun _ => hp) hi.orderly

theorem release (hi : GateInv s) (hh : s.world.gate.lock.holder = some i)
    (hp : ¬ InProgress i s.past)
    (hl : w.gate = { s.world.gate with lock := s.world.gate.lock.release }) :
    GateInv ⟨w, ⟨i, .release, ()⟩ :: s.past⟩ := by
  have hline : s.world.gate.lock.line = i :: w.gate.lock.line := by
    rw [hl, Lock.line_of_holder hh]
    exact congrArg _ (Lock.release_line _).symm
  have hsame : ∀ j, missed j (⟨i, .release, ()⟩ :: s.past) = missed j s.past :=
    fun j => missed_cons rfl
  have hsorted := hi.sorted
  have harrived := hi.arrived
  have hshort := hi.short
  rw [hline] at hsorted harrived hshort
  constructor
  · rw [hl, outcomes_quiet rfl]; exact hi.counted
  · rw [hl, outcomes_quiet rfl]; exact hi.latest
  · rw [hl]; exact Lock.release_fair _
  · intro j hj
    rw [passage_arrived_cons, harrived j (List.mem_cons_of_mem i hj), Bool.or_true]
  · simp only [hsame]
    exact (List.pairwise_cons.mp hsorted).2
  · intro j hj
    rw [hsame]
    exact hshort j (List.mem_cons_of_mem i hj)
  · intro j hj
    rcases inProgress_cons hj with hj | ⟨-, hm⟩
    · cases Option.some.inj (hh.symm.trans (hi.holding j hj))
      exact absurd hj hp
    · cases hm
  · exact orderly_cons (fits_plain (fun _ => rfl) nofun nofun rfl fun hm => absurd rfl hm)
      hi.orderly

end GateInv

end BearerSession
