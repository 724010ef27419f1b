import BearerSession.Proofs.RequestHistory

namespace BearerSession

open GraphQL (Request)

theorem Endpoint.reads_le_react (e : Endpoint) (i : Nat) (c : Call) (w : World) :
    w.reads ≤ (e.react i c w).2.reads := by
  cases c with
  | get key => exact World.reads_le_get w key
  | set key value ttl => exact World.reads_le_set w key value ttl
  | remove key => exact World.reads_le_remove w key
  | log line => exact Nat.le_of_eq (World.write_reads w line).symm
  | supply =>
    unfold Endpoint.react World.react
    cases w.supplies <;> exact Nat.le_refl _
  | _ => exact Nat.le_refl _

namespace Crowd

variable (c : Crowd)

/-- What a request may do. -/
inductive Permits (i : Nat) (r : Request) (s : Scene) : Call → Prop
  | readAccess : Permits i r s (.get c.options.keys.access)
  | readRefresh : (tally c.options.keys i s.past).refreshes = 0 →
      Permits i r s (.get c.options.keys.refresh)
  | writeAccess {access} : c.Exchanged i access s.past →
      Permits i r s (.set c.options.keys.access access c.options.ttl)
  | writeRefresh : Permits i r s (.set c.options.keys.refresh c.token c.options.ttl)
  | exchange {message} :
      (tally c.options.keys i s.past).reading = some c.options.keys.refresh →
      Permits i r s (.send c.destination message)
  | first {message} : (tally c.options.keys i s.past).attempts = 0 →
      Permits i r s (.send c.destination message)
  | second {message} : (tally c.options.keys i s.past).attempts = 1 →
      c.Retries i r message s.past → Permits i r s (.send c.destination message)
  | log {line} : Permits i r s (.log line)
  | count : Permits i r s .completed
  | look : Permits i r s .last
  | arrive : (tally c.options.keys i s.past).arrivals = 0 → Permits i r s .acquire
  | release : Permits i r s .release
  /-- A refresh that counts has just written the access credential. -/
  | settle {x own} : newest? c.options.keys.access s.past = some x → s.past = own ++ x.before →
      (∀ m ∈ own, m.task = i) → Permits i r s (.settle (.ok ()))

/-- A time that has not come when the clock is read for the given time, because nothing expires. -/
def Outlasts (t : Instant) (n : Nat) : Prop :=
  t = c.horizon ∨ ∃ n', c.start.reads ≤ n' ∧ n' < n ∧ t = (c.start.clock n').plus c.options.ttl

/-- What the store holds by the history. -/
structure Stores (s : Scene) (m : MemoryStore) : Prop where
  clock : s.world.clock = c.start.clock
  faults : s.world.faults = []
  reads : c.start.reads ≤ s.world.reads
  store : s.world.store = .memory m
  held : ∃ t, m.entries.get? c.options.keys.refresh = some ⟨c.token, t⟩ ∧
    c.Outlasts t s.world.reads
  newest : ∀ x, newest? c.options.keys.access s.past = some x →
    c.Exchanged x.task x.value x.before ∧
    ∃ t, m.entries.get? c.options.keys.access = some ⟨x.value, t⟩ ∧ c.Outlasts t s.world.reads

/-- What holds between any two calls. A refresh that finished since the start succeeded. -/
structure Inv (s : Scene) : Prop where
  store : ∃ m, c.Stores s m
  counted : c.start.gate.completed ≤ s.world.gate.completed
  latest : c.start.gate.completed < s.world.gate.completed → s.world.gate.last = some (.ok ())
  record : c.Record s.past

variable {c} {e : Endpoint} {i : Nat} {r : Request} {s : Scene} {m : MemoryStore}

theorem Lasts.mono {n n' : Nat} (h : c.Lasts n') (hn : n ≤ n') : c.Lasts n :=
  ⟨fun k hk hkn => h.held k hk (Nat.le_trans hkn hn),
    fun j k hj hjk hkn => h.written j k hj hjk (Nat.le_trans hkn hn)⟩

theorem Spared.back {call : Call} (h : c.Spared (e.scenes.react i call s).2) : c.Spared s :=
  ⟨h.lasts.mono (e.reads_le_react i call s.world), fun answer ha =>
    h.granted answer (exchanges_cons _ _ _ ha)⟩

theorem Outlasts.mono {t : Instant} {n n' : Nat} (h : c.Outlasts t n) (hn : n ≤ n') :
    c.Outlasts t n' :=
  h.imp id fun ⟨k, hk, hkn, ht⟩ => ⟨k, hk, Nat.lt_of_lt_of_le hkn hn, ht⟩

theorem Outlasts.lt {t : Instant} {n : Nat} (h : c.Outlasts t n) (hl : c.Lasts n)
    (hn : c.start.reads ≤ n) : c.start.clock n < t := by
  rcases h with rfl | ⟨k, hk, hkn, rfl⟩
  · exact hl.held n hn (Nat.le_refl n)
  · exact hl.written k n hk hkn (Nat.le_refl n)

theorem newest?_quiet {key : String} {m : Moment} {h : List Moment}
    (hm : ∀ value ttl, m.call ≠ .set key value ttl) : newest? key (m :: h) = newest? key h := by
  rcases newest?_cons key m h with hn | ⟨value, ttl, hc, -⟩
  · exact hn
  · exact absurd hc (hm value ttl)

theorem Stores.quiet (h : c.Stores s m) {w : World} {x : Moment} (hclock : w.clock = s.world.clock)
    (hfaults : w.faults = s.world.faults) (hreads : s.world.reads ≤ w.reads)
    (hstore : w.store = s.world.store)
    (hx : ∀ value ttl, x.call ≠ .set c.options.keys.access value ttl) :
    c.Stores ⟨w, x :: s.past⟩ m := by
  refine ⟨hclock.trans h.clock, hfaults.trans h.faults, Nat.le_trans h.reads hreads,
    hstore.trans h.store, ?_, fun y hy => ?_⟩
  · obtain ⟨t, ht, hl⟩ := h.held
    exact ⟨t, ht, hl.mono hreads⟩
  · rw [newest?_quiet hx] at hy
    obtain ⟨hex, t, ht, hl⟩ := h.newest y hy
    exact ⟨hex, t, ht, hl.mono hreads⟩

theorem Stores.written (h : c.Stores s m) : c.Outlasts ((s.world.now).plus c.options.ttl)
    (s.world.reads + 1) := by
  refine .inr ⟨s.world.reads, h.reads, Nat.lt_succ_self _, ?_⟩
  rw [World.now, h.clock]

theorem Stores.writeAccess (h : c.Stores s m) {access : Secret}
    (hex : c.Exchanged i access s.past) :
    ∃ m', c.Stores (e.scenes.react i (.set c.options.keys.access access c.options.ttl) s).2 m' := by
  have hw := World.set_memory h.store h.faults c.options.keys.access access c.options.ttl
  refine ⟨m.set s.world.now c.options.keys.access access c.options.ttl, ?_⟩
  show c.Stores ⟨(s.world.set _ _ _).2, _⟩ _
  rw [hw]
  refine ⟨h.clock, h.faults, Nat.le_succ_of_le h.reads, rfl, ?_, fun x hx => ?_⟩
  · obtain ⟨t, ht, hl⟩ := h.held
    refine ⟨t, ?_, hl.mono (Nat.le_succ _)⟩
    simp [MemoryStore.set, c.distinct.symm, ht]
  · cases (if_pos rfl).symm.trans hx
    exact ⟨hex, _, by simp [MemoryStore.set, StoredEntry.stamp], h.written⟩

theorem Stores.writeRefresh (h : c.Stores s m) :
    ∃ m',
      c.Stores (e.scenes.react i (.set c.options.keys.refresh c.token c.options.ttl) s).2 m' := by
  have hw := World.set_memory h.store h.faults c.options.keys.refresh c.token c.options.ttl
  refine ⟨m.set s.world.now c.options.keys.refresh c.token c.options.ttl, ?_⟩
  show c.Stores ⟨(s.world.set _ _ _).2, _⟩ _
  rw [hw]
  refine ⟨h.clock, h.faults, Nat.le_succ_of_le h.reads, rfl, ?_, fun x hx => ?_⟩
  · exact ⟨_, by simp [MemoryStore.set, StoredEntry.stamp], h.written⟩
  · have hold : newest? c.options.keys.access s.past = some x :=
      (if_neg c.distinct.symm).symm.trans hx
    obtain ⟨hex, t, ht, hl⟩ := h.newest x hold
    refine ⟨hex, t, ?_, hl.mono (Nat.le_succ _)⟩
    simp [MemoryStore.set, c.distinct, ht]

theorem Stores.read (h : c.Stores s m) (key : String) :
    c.Stores (e.scenes.react i (.get key) s).2 m := by
  show c.Stores ⟨(s.world.get key).2, _⟩ m
  rw [World.get_memory h.store h.faults]
  exact h.quiet rfl rfl (Nat.le_succ _) rfl fun _ _ hm => nomatch hm

/-- What a request may do keeps the store in step with the history. -/
theorem Stores.keep {call : Call} (h : c.Stores s m) (hp : c.Permits i r s call) :
    ∃ m', c.Stores (e.scenes.react i call s).2 m' := by
  cases hp with
  | readAccess => exact ⟨m, h.read _⟩
  | readRefresh hn => exact ⟨m, h.read _⟩
  | writeAccess hex => exact h.writeAccess hex
  | writeRefresh => exact h.writeRefresh
  | log =>
    exact ⟨m, h.quiet (World.write_clock _ _) (World.write_faults _ _) (Nat.le_of_eq
      (World.write_reads _ _).symm) (World.write_store _ _) fun _ _ hm => nomatch hm⟩
  | _ => exact ⟨m, h.quiet rfl rfl (Nat.le_refl _) rfl fun _ _ hm => nomatch hm⟩

/-- The counter of the gate stays, or a refresh succeeded. -/
theorem gate_step {call : Call} (hp : c.Permits i r s call) :
    let g := (e.react i call s.world).2.gate
    (g.completed = s.world.gate.completed ∧ g.last = s.world.gate.last) ∨
      (call = .settle (.ok ()) ∧ g.completed = s.world.gate.completed + 1 ∧
        g.last = some (.ok ())) := by
  have same : ∀ {g : GateState}, g = s.world.gate →
      g.completed = s.world.gate.completed ∧ g.last = s.world.gate.last := by
    rintro g rfl
    exact ⟨rfl, rfl⟩
  cases hp with
  | readAccess => exact .inl (same (World.get_gate _ _))
  | readRefresh hn => exact .inl (same (World.get_gate _ _))
  | writeAccess hex => exact .inl (same (World.set_gate _ _ _ _))
  | writeRefresh => exact .inl (same (World.set_gate _ _ _ _))
  | log => exact .inl (same (World.write_gate _ _))
  | settle hx hpast hown => exact .inr ⟨rfl, rfl, rfl⟩
  | _ => exact .inl ⟨rfl, rfl⟩

/-- What a request may do keeps its tally within bounds. -/
theorem Permits.bounded {call : Call} (hr : (tally c.options.keys i s.past).IsBounded)
    (hp : c.Permits i r s call) :
    ((tally c.options.keys i s.past).after c.options.keys call).IsBounded := by
  obtain ⟨ha, hv, hf⟩ := hr
  cases hp with
  | readAccess => exact ⟨ha, hv, by simpa [Tally.after, c.distinct] using hf⟩
  | readRefresh hn => exact ⟨ha, hv, by simp [Tally.after, hn]⟩
  | exchange hreading => exact ⟨by simpa [Tally.after, hreading] using ha, hv, hf⟩
  | first hn => exact ⟨by simp only [Tally.after]; split <;> omega, hv, hf⟩
  | second hn hretry => exact ⟨by simp only [Tally.after]; split <;> omega, hv, hf⟩
  | arrive hn => exact ⟨ha, by simp [Tally.after, hn], hf⟩
  | _ => exact ⟨ha, hv, hf⟩

theorem Record.cons {call : Call} (hr : c.Record s.past) (hi : c.requests[i]? = some r)
    (hp : c.Permits i r s call) (a : call.Answer) : c.Record (⟨i, call, a⟩ :: s.past) := by
  constructor
  · intro j
    by_cases hj : i = j
    · subst hj
      rw [tally_mk]
      exact hp.bounded (hr.bounded i)
    · rw [tally_other hj]
      exact hr.bounded j
  · intro x hx
    rcases List.mem_cons.mp hx with rfl | hx
    · rintro rfl
      cases hp
    · exact hr.loyal x hx
  · intro j destination message answer before hs hreading hn
    rcases List.suffix_cons_iff.mp hs with heq | hs
    · cases heq
      cases hp with
      | exchange hread => exact absurd hread hreading
      | first hnone => omega
      | second hone hretry => exact ⟨r, hi, hretry⟩
    · exact hr.retried j destination message answer before hs hreading hn

/-- What a request may do keeps the invariant. -/
theorem Inv.keep {call : Call} (h : c.Inv s) (hi : c.requests[i]? = some r)
    (hp : c.Permits i r s call) : c.Inv (e.scenes.react i call s).2 := by
  obtain ⟨m, hm⟩ := h.store
  refine ⟨hm.keep hp, ?_, ?_, h.record.cons hi hp _⟩
  · show c.start.gate.completed ≤ (e.react i call s.world).2.gate.completed
    have hc := h.counted
    rcases gate_step (e := e) hp with ⟨hg, -⟩ | ⟨-, hg, -⟩ <;> omega
  · show c.start.gate.completed < (e.react i call s.world).2.gate.completed →
      (e.react i call s.world).2.gate.last = some (.ok ())
    rcases gate_step (e := e) hp with ⟨hg, hl⟩ | ⟨-, -, hl⟩
    · rw [hg, hl]
      exact h.latest
    · exact fun _ => hl

theorem Inv.init : c.Inv ⟨c.start, []⟩ := by
  refine ⟨⟨c.store, rfl, c.reliable, Nat.le_refl _, c.memory, ⟨c.horizon, c.held, .inl rfl⟩,
    fun x hx => nomatch hx⟩, Nat.le_refl _, fun hlt => absurd hlt (Nat.lt_irrefl _), ?_⟩
  exact ⟨fun _ => ⟨Nat.zero_le _, Nat.zero_le _, Nat.zero_le _⟩, fun m hm => (nomatch hm),
    fun _ _ _ _ _ hs => nomatch List.suffix_nil.mp hs⟩

section Readings

variable (h : c.Inv s)

include h

theorem Inv.get_ok (key : String) : ∃ x, (s.world.get key).1 = .ok x := by
  obtain ⟨m, hm⟩ := h.store
  rw [World.get_memory hm.store hm.faults]
  exact ⟨_, rfl⟩

theorem Inv.set_ok (key : String) (value : Secret) (ttl : Span) :
    (s.world.set key value ttl).1 = .ok () := by
  obtain ⟨m, hm⟩ := h.store
  rw [World.set_memory hm.store hm.faults]

/-- The refresh key reads as at the start. -/
theorem Inv.get_refresh (hl : c.Lasts s.world.reads) :
    (s.world.get c.options.keys.refresh).1 = .ok (some c.token) := by
  obtain ⟨m, hm⟩ := h.store
  obtain ⟨t, ht, hout⟩ := hm.held
  have hlive := hout.lt hl hm.reads
  rw [World.get_memory hm.store hm.faults]
  simp [MemoryStore.get, ht, liveValue, StoredEntry.isLive, World.now, hm.clock, hlive,
    Option.filter]

/-- The access key reads as it was written last. -/
theorem Inv.get_access (hl : c.Lasts s.world.reads) {x : Writing}
    (hx : newest? c.options.keys.access s.past = some x) :
    (s.world.get c.options.keys.access).1 = .ok (some x.value) := by
  obtain ⟨m, hm⟩ := h.store
  obtain ⟨-, t, ht, hout⟩ := hm.newest x hx
  have hlive := hout.lt hl hm.reads
  rw [World.get_memory hm.store hm.faults]
  simp [MemoryStore.get, ht, liveValue, StoredEntry.isLive, World.now, hm.clock, hlive,
    Option.filter]

end Readings

end Crowd

end BearerSession
