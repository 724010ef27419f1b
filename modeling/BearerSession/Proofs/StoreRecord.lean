import BearerSession.Proofs.Conduct
import BearerSession.Proofs.StoreAgreement

namespace BearerSession

def Call.storeOp? : Call → Option StoreOp
  | .get key => some (.get key)
  | .set key value ttl => some (.set key value ttl)
  | .remove key => some (.remove key)
  | _ => none

/-- Whether a call of the store, if it was one, succeeded. -/
def Moment.succeeds : Moment → Bool
  | ⟨_, .get _, answer⟩ => answer.isOk
  | ⟨_, .set _ _ _, answer⟩ => answer.isOk
  | ⟨_, .remove _, answer⟩ => answer.isOk
  | _ => true

def storeCalls (h : List Moment) : Nat := h.countP (·.call.storeOp?.isSome)

namespace World

/-- What a call of the store depends on. -/
def shelf (w : World) : (Nat → Instant) × Nat × AnyStore × Machine × List (StoreCall × String) :=
  (w.clock, w.reads, w.store, w.machine, w.faults)

@[simp] theorem write_shelf (w : World) (line : LogLine) : (w.write line).shelf = w.shelf := by
  unfold write
  split <;> rfl

theorem foldl_write_shelf (w : World) (lines : List LogLine) :
    (lines.foldl write w).shelf = w.shelf := by
  induction lines generalizing w with
  | nil => rfl
  | cons line lines ih => rw [List.foldl_cons, ih, write_shelf]

variable {w : World} (hf : w.faults = [])

include hf

theorem fault?_note (event : Event) (call : StoreCall) (key : String) :
    (w.note event).fault? call key = none := by
  unfold fault?
  have hnote : (w.note event).faults = [] := hf
  rw [hnote]
  rfl

theorem get_shelf (key : String) :
    let r := (AnyStore.calls w.now).get key (w.store, w.machine)
    (w.get key).1 = r.1 ∧ (w.get key).2.shelf = (w.clock, w.reads + 1, r.2.1, r.2.2, []) := by
  unfold get
  dsimp only
  rw [fault?_note hf]
  dsimp only
  rw [foldl_write_shelf]
  refine ⟨rfl, ?_⟩
  unfold shelf
  rw [← hf]
  rfl

theorem set_shelf (key : String) (value : Secret) (ttl : Span) :
    let r := (AnyStore.calls w.now).set key value ttl (w.store, w.machine)
    (w.set key value ttl).1 = r.1 ∧
      (w.set key value ttl).2.shelf = (w.clock, w.reads + 1, r.2.1, r.2.2, []) := by
  unfold set
  dsimp only
  rw [fault?_note hf]
  refine ⟨rfl, ?_⟩
  unfold shelf
  rw [← hf]
  rfl

theorem remove_shelf (key : String) :
    let r := (AnyStore.calls w.now).remove key (w.store, w.machine)
    (w.remove key).1 = r.1 ∧
      (w.remove key).2.shelf = (w.clock, w.reads + 1, r.2.1, r.2.2, []) := by
  unfold remove
  dsimp only
  rw [fault?_note hf]
  refine ⟨rfl, ?_⟩
  unfold shelf
  rw [← hf]
  rfl

end World

theorem Endpoint.react_shelf (e : Endpoint) (i : Nat) {c : Call} (hc : c.storeOp? = none)
    (w : World) : (e.react i c w).2.shelf = w.shelf := by
  cases c with
  | get key => cases hc
  | set key value ttl => cases hc
  | remove key => cases hc
  | log line => exact World.write_shelf w line
  | supply =>
    unfold Endpoint.react World.react
    cases w.supplies <;> rfl
  | _ => rfl

section Carrying

variable {s : AnyStore} {machine : Machine} {now : Instant} {key : String}

/-- What a store did not refuse it can carry. -/
theorem carries_of_set {value : Secret} {ttl : Span}
    (h : ((AnyStore.calls now).set key value ttl (s, machine)).1.isOk = true) :
    s.Carries (.set key value ttl) := by
  cases s with
  | request jar =>
    unfold AnyStore.calls AnyStore.set RequestJar.set at h
    dsimp only at h
    split at h
    next heq =>
      split at heq
      next hc => simpa [AnyStore.Carries, StoreOp.IsCookie] using hc
      next => cases heq
    next => cases h
  | _ => exact trivial

theorem carries_of_remove
    (h : ((AnyStore.calls now).remove key (s, machine)).1.isOk = true) :
    s.Carries (.remove key) := by
  cases s with
  | request jar =>
    unfold AnyStore.calls AnyStore.remove RequestJar.remove at h
    dsimp only at h
    split at h
    next heq =>
      split at heq
      next hc => exact hc
      next => cases heq
    next => cases h
  | _ => exact trivial

end Carrying

/-- A world whose store works, and the calls that led to what the store holds. -/
structure StoreStart where
  world : World
  history : StoreHistory
  reliable : world.faults = []
  kept : world.store.Keeps history world.now world.machine

namespace StoreStart

variable (o : StoreStart)

/-- The time of the next call of the store. -/
def time (h : List Moment) : Instant := o.world.clock (o.world.reads + storeCalls h)

/-- Whether the clock shows less at the next call of the store than it did at an earlier one. -/
def SetBack (h : List Moment) : Prop :=
  ∃ n < storeCalls h, o.time h < o.world.clock (o.world.reads + n)

/-- The calls of the store with their times. -/
def record : List Moment → StoreHistory
  | [] => o.history
  | m :: h =>
    match m.call.storeOp? with
    | some op => (o.time h, op) :: record h
    | none => record h

/-- A reading gives what is promised. Where the clock has been set back, it may give nothing. -/
def Reads (h : List Moment) (key : String) (answer : Except StoreError (Option Secret)) : Prop :=
  answer = .ok (promised (o.record h) (o.time h) key) ∨ o.SetBack h ∧ answer = .ok none

/-- A store in some state of its machine holds what is promised from now on, or from a time that the
clock has shown. -/
def Holds (h : List Moment) (store : AnyStore) (machine : Machine) : Prop :=
  ∃ n ≤ storeCalls h, ¬ o.world.clock (o.world.reads + n) < o.time h ∧
    store.Keeps (o.record h) (o.world.clock (o.world.reads + n)) machine

/-- The store holds what is promised, and so it was at every reading. -/
structure Agrees (s : Scene) : Prop where
  holds : ∃ store machine,
    s.world.shelf = (o.world.clock, o.world.reads + storeCalls s.past, store, machine, []) ∧
      o.Holds s.past store machine
  truthful : ∀ i key answer before, ⟨i, .get key, answer⟩ :: before <:+ s.past →
    o.Reads before key answer

variable {o} {e : Endpoint} {i : Nat} {s : Scene} {h : List Moment} {store : AnyStore}
  {machine : Machine}

theorem Agrees.init : o.Agrees ⟨o.world, []⟩ := by
  refine ⟨⟨o.world.store, o.world.machine, ?_, 0, Nat.le_refl 0, ?_, o.kept⟩, fun _ _ _ _ hs => ?_⟩
  · unfold World.shelf
    rw [o.reliable]
    rfl
  · exact Instant.not_lt_self o.world.now
  · cases List.suffix_nil.mp hs

theorem storeCalls_quiet {c : Call} (hc : c.storeOp? = none) (a : c.Answer) (h : List Moment) :
    storeCalls (⟨i, c, a⟩ :: h) = storeCalls h := by
  simp [storeCalls, hc]

theorem storeCalls_op {c : Call} {op : StoreOp} (hc : c.storeOp? = some op) (a : c.Answer)
    (h : List Moment) : storeCalls (⟨i, c, a⟩ :: h) = storeCalls h + 1 := by
  simp [storeCalls, hc]

theorem record_quiet (o : StoreStart) {c : Call} (hc : c.storeOp? = none) (a : c.Answer)
    (h : List Moment) : o.record (⟨i, c, a⟩ :: h) = o.record h := by
  simp only [record, hc]

theorem record_op (o : StoreStart) {c : Call} {op : StoreOp} (hc : c.storeOp? = some op)
    (a : c.Answer) (h : List Moment) :
    o.record (⟨i, c, a⟩ :: h) = (o.time h, op) :: o.record h := by
  simp only [record, hc]

theorem Reads.promised_of_some {key : String} {v : Secret} (hr : o.Reads h key (.ok (some v))) :
    promised (o.record h) (o.time h) key = some v := by
  rcases hr with hread | ⟨-, hlost⟩
  · exact (Except.ok.inj hread).symm
  · cases hlost

theorem Reads.eq_none {key : String} {answer : Except StoreError (Option Secret)}
    (hr : o.Reads h key answer) (hnone : lastWrite key (o.record h) = none) :
    answer = .ok none := by
  rcases hr with hread | ⟨-, hlost⟩
  · rw [hread, promised, hnone]
    rfl
  · exact hlost

/-- A reading of the store, which then holds what is promised after it. -/
theorem Holds.get (hh : o.Holds h store machine) (key : String) :
    let r := (AnyStore.calls (o.time h)).get key (store, machine)
    o.Reads h key r.1 ∧ ∃ n ≤ storeCalls h, ¬ o.world.clock (o.world.reads + n) < o.time h ∧
      r.2.1.Keeps ((o.time h, .get key) :: o.record h) (o.world.clock (o.world.reads + n))
        r.2.2 := by
  obtain ⟨n, hn, hmark, hkeeps⟩ := hh
  have hop : ∀ key', (StoreOp.get key).writes key' = false := fun _ => rfl
  obtain ⟨reply, hreply, hanswer, hkeeps', -⟩ := AnyStore.get_obeys hkeeps hmark key hop
  refine ⟨?_, n, hn, hmark, hkeeps'⟩
  rcases hreply with rfl | ⟨hback, rfl⟩
  · exact .inl hanswer
  · refine .inr ⟨⟨n, Nat.lt_of_le_of_ne hn ?_, hback⟩, hanswer⟩
    rintro rfl
    exact Instant.not_lt_self _ hback

/-- The promises of an earlier mark are those of a mark not before the next call. -/
theorem Holds.after {c : Call} {op : StoreOp} (hc : c.storeOp? = some op) {a : c.Answer} {n : Nat}
    (hn : n ≤ storeCalls h)
    (hkeeps : store.Keeps ((o.time h, op) :: o.record h) (o.world.clock (o.world.reads + n))
      machine) : o.Holds (⟨i, c, a⟩ :: h) store machine := by
  unfold Holds
  rw [record_op o hc, storeCalls_op hc]
  by_cases hback : o.time (⟨i, c, a⟩ :: h) < o.world.clock (o.world.reads + n)
  · refine ⟨n, Nat.le_succ_of_le hn, fun hlt => ?_, hkeeps⟩
    exact Instant.not_lt_self _ (Instant.lt_of_lt_of_not_lt hback (Instant.not_lt_of_lt hlt))
  · have htime : o.time (⟨i, c, a⟩ :: h) =
        o.world.clock (o.world.reads + (storeCalls h + 1)) := by
      rw [time, storeCalls_op hc]
    rw [htime] at hback ⊢
    exact ⟨_, Nat.le_refl _, Instant.not_lt_self _, hkeeps.later hback⟩

theorem Agrees.after {c : Call} {op : StoreOp} (h : o.Agrees s) (hc : c.storeOp? = some op)
    {w : World} {a : c.Answer} {n : Nat} (hn : n ≤ storeCalls s.past)
    (hshelf : w.shelf =
      (o.world.clock, o.world.reads + storeCalls s.past + 1, store, machine, []))
    (hkeeps : store.Keeps ((o.time s.past, op) :: o.record s.past)
      (o.world.clock (o.world.reads + n)) machine)
    (htrue : ∀ j key answer, (⟨i, c, a⟩ : Moment) = ⟨j, .get key, answer⟩ →
      o.Reads s.past key answer) :
    o.Agrees ⟨w, ⟨i, c, a⟩ :: s.past⟩ := by
  constructor
  · refine ⟨store, machine, ?_, .after hc hn hkeeps⟩
    show w.shelf = (o.world.clock, o.world.reads + storeCalls (⟨i, c, a⟩ :: s.past), _)
    rw [storeCalls_op hc]
    exact hshelf
  · intro j key answer before hs
    rcases List.suffix_cons_iff.mp hs with heq | hs
    · injection heq with hm hbefore
      subst hbefore
      exact htrue j key answer hm.symm
    · exact h.truthful j key answer before hs

theorem Agrees.quiet {c : Call} (h : o.Agrees s) (hc : c.storeOp? = none) {w : World}
    (hw : w.shelf = s.world.shelf) (a : c.Answer) : o.Agrees ⟨w, ⟨i, c, a⟩ :: s.past⟩ := by
  obtain ⟨store, machine, hshelf, hholds⟩ := h.holds
  constructor
  · refine ⟨store, machine, ?_, ?_⟩
    · show w.shelf = (o.world.clock, o.world.reads + storeCalls (⟨i, c, a⟩ :: s.past), _)
      rw [storeCalls_quiet hc, hw]
      exact hshelf
    · show o.Holds (⟨i, c, a⟩ :: s.past) store machine
      unfold Holds time
      rw [record_quiet o hc, storeCalls_quiet hc]
      exact hholds
  · intro j key answer before hs
    rcases List.suffix_cons_iff.mp hs with heq | hs
    · injection heq with hm
      cases hm
      cases hc
    · exact h.truthful j key answer before hs

/-- A call of the store that succeeds does what was promised, and no other call concerns it. -/
theorem Agrees.keep {c : Call} (h : o.Agrees s)
    (hok : (⟨i, c, (e.react i c s.world).1.answer⟩ : Moment).succeeds = true) :
    o.Agrees (e.scenes.react i c s).2 := by
  cases hc : c.storeOp? with
  | none => exact h.quiet hc (e.react_shelf i hc s.world) _
  | some op =>
    obtain ⟨store, machine, hshelf, hholds⟩ := h.holds
    simp only [World.shelf, Prod.mk.injEq] at hshelf
    obtain ⟨hclock, hreads, hstore, hmachine, hfaults⟩ := hshelf
    have hnow : s.world.now = o.time s.past := by rw [World.now, hclock, hreads, time]
    cases c with
    | get key =>
      obtain ⟨hanswer, hnext⟩ := World.get_shelf hfaults key
      rw [hnow, hstore, hmachine] at hanswer hnext
      rw [hclock, hreads] at hnext
      obtain ⟨hread, n, hn, -, hkeeps⟩ := hholds.get key
      refine h.after rfl hn hnext hkeeps fun j key' answer hm => ?_
      cases hm
      exact hanswer.symm ▸ hread
    | set key value ttl =>
      obtain ⟨n, hn, hmark, hkeeps⟩ := hholds
      obtain ⟨hanswer, hnext⟩ := World.set_shelf hfaults key value ttl
      rw [hnow, hstore, hmachine] at hanswer hnext
      rw [hclock, hreads] at hnext
      have hset : (s.world.set key value ttl).1.isOk = true := hok
      rw [hanswer] at hset
      obtain ⟨-, hkeeps', -⟩ :=
        AnyStore.set_obeys hkeeps hmark key value ttl (carries_of_set hset)
      exact h.after rfl hn hnext hkeeps' fun j key' answer hm => by cases hm
    | remove key =>
      obtain ⟨n, hn, hmark, hkeeps⟩ := hholds
      obtain ⟨hanswer, hnext⟩ := World.remove_shelf hfaults key
      rw [hnow, hstore, hmachine] at hanswer hnext
      rw [hclock, hreads] at hnext
      have hremove : (s.world.remove key).1.isOk = true := hok
      rw [hanswer] at hremove
      obtain ⟨-, hkeeps', -⟩ := AnyStore.remove_obeys hkeeps hmark key (carries_of_remove hremove)
      exact h.after rfl hn hnext hkeeps' fun j key' answer hm => by cases hm
    | _ => cases hc

theorem Agrees.now (h : o.Agrees s) : s.world.now = o.time s.past := by
  obtain ⟨store, machine, hshelf, -⟩ := h.holds
  simp only [World.shelf, Prod.mk.injEq] at hshelf
  rw [World.now, hshelf.1, hshelf.2.1, time]

theorem Agrees.get (h : o.Agrees s) (key : String) : o.Reads s.past key (s.world.get key).1 := by
  obtain ⟨store, machine, hshelf, hholds⟩ := h.holds
  simp only [World.shelf, Prod.mk.injEq] at hshelf
  obtain ⟨-, -, hstore, hmachine, hfaults⟩ := hshelf
  obtain ⟨hanswer, -⟩ := World.get_shelf hfaults key
  rw [h.now, hstore, hmachine] at hanswer
  rw [hanswer]
  exact (hholds.get key).1

/-- Whatever the order of polls, as long as all calls of the store succeeded. -/
theorem agrees_of_visits {r : Conduct} {α : Type} {ps : List (Script α)}
    (follows : ∀ (i : Nat) (p : Script α), ps[i]? = some p →
      p.Follows i (r.permits i) (fun _ _ => True) [])
    (visit : Task.Visits e.scenes (ps.map .ready) ⟨o.world, []⟩ s)
    (succeeded : ∀ m ∈ s.past, m.succeeds = true) : o.Agrees s := by
  let law : Law r e :=
    { scope := fun s => ∀ m ∈ s.past, m.succeeds = true
      inv := o.Agrees
      back := fun h m hm => h m (List.mem_cons_of_mem _ hm)
      keep := fun h hinv _ => hinv.keep (h _ List.mem_cons_self) }
  exact law.visits_inv follows visit .init succeeded

end StoreStart

end BearerSession
