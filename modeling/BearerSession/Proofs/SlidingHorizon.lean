import BearerSession.Proofs.LoneRuns
import BearerSession.Proofs.MutationReply
import BearerSession.Proofs.RequestHistory
import BearerSession.Proofs.StoreRecord
import BearerSession.Proofs.TimeToLive

namespace BearerSession

open GraphQL (Envelope Outgoing Request TransportError)

theorem nanos_of_days {days : Int} {ttl : Span} (h : ttlOfDays days = .ok ttl) :
    1 ≤ days ∧ ttl.nanos = days * 86400000000000 := by
  obtain ⟨hdays, hnanos⟩ := ttlOfDays_eq_ok_iff.mp h
  omega

/-- The time of the latest write of a key by calls that began in a world. -/
def World.writeTime? (w : World) (key : String) : List Moment → Option Instant
  | [] => none
  | ⟨_, .set key' _ _, _⟩ :: h =>
    if key' = key then some (w.clock (w.reads + storeCalls h)) else w.writeTime? key h
  | _ :: h => w.writeTime? key h

/-- The clock has shown a time that is not before another. -/
def World.Passed (w : World) (h : List Moment) (t : Instant) : Prop :=
  ∃ n < storeCalls h, ¬ w.clock (w.reads + n) < t

def Call.writes (key : String) : Call → Bool
  | .set key' _ _ => key' = key
  | _ => false

section Histories

variable {w : World} {key : String} {m : Moment} {h base : List Moment} {t : Instant}

theorem storeCalls_cons (m : Moment) (h : List Moment) :
    storeCalls (m :: h) = storeCalls h + storeCalls [m] := by
  unfold storeCalls
  rw [Nat.add_comm, ← List.countP_append, List.singleton_append]

theorem storeCalls_le_cons (m : Moment) (h : List Moment) : storeCalls h ≤ storeCalls (m :: h) := by
  rw [storeCalls_cons]
  exact Nat.le_add_right _ _

theorem World.Passed.cons (hp : w.Passed h t) (m : Moment) : w.Passed (m :: h) t := by
  obtain ⟨n, hn, hlt⟩ := hp
  exact ⟨n, Nat.lt_of_lt_of_le hn (storeCalls_le_cons m h), hlt⟩

theorem writeTime?_unwritten (hm : m.call.writes key = false) :
    w.writeTime? key (m :: h) = w.writeTime? key h := by
  obtain ⟨i, call, answer⟩ := m
  cases call with
  | set key' value ttl =>
    have hne : ¬ key' = key := by simpa [Call.writes] using hm
    exact if_neg hne
  | _ => rfl

theorem writeTime?_set {i : Nat} {key' : String} {value : Secret} {ttl : Span}
    {answer : Except StoreError Unit} (hk : key' = key) :
    w.writeTime? key (⟨i, .set key' value ttl, answer⟩ :: h) =
      some (w.clock (w.reads + storeCalls h)) := if_pos hk

/-- The latest write of a key was made at some call of the store. -/
theorem writeTime?_eq (hstart : w.writeTime? key h = some t) :
    ∃ n < storeCalls h, t = w.clock (w.reads + n) := by
  fun_induction World.writeTime? w key h with
  | case1 => cases hstart
  | case2 i value ttl h answer =>
    refine ⟨storeCalls h, ?_, (Option.some.inj hstart).symm⟩
    rw [StoreStart.storeCalls_op rfl]
    exact Nat.lt_succ_self _
  | case3 i key' value ttl h answer hk ih =>
    obtain ⟨n, hn, ht⟩ := ih hstart
    exact ⟨n, Nat.lt_of_lt_of_le hn (storeCalls_le_cons _ _), ht⟩
  | case4 m h hm ih =>
    obtain ⟨n, hn, ht⟩ := ih hstart
    exact ⟨n, Nat.lt_of_lt_of_le hn (storeCalls_le_cons m h), ht⟩

/-- The latest write of a later history is no earlier, unless the clock was set back. -/
theorem writeTime?_mono {start start' : Instant} (hs : base <:+ h)
    (forward : ∀ n n', n ≤ n' → n' < storeCalls h →
      ¬ w.clock (w.reads + n') < w.clock (w.reads + n))
    (hstart : w.writeTime? key base = some start) (hstart' : w.writeTime? key h = some start') :
    ¬ start' < start := by
  induction h with
  | nil =>
    cases List.suffix_nil.mp hs
    cases hstart
  | cons m h ih =>
    have hcount := storeCalls_le_cons m h
    rcases List.suffix_cons_iff.mp hs with rfl | hbase
    · cases hstart.symm.trans hstart'
      exact Instant.not_lt_self start
    · have ih := ih hbase fun n n' hn hn' => forward n n' hn (Nat.lt_of_lt_of_le hn' hcount)
      cases hm : m.call.writes key with
      | false => exact ih ((writeTime?_unwritten hm).symm.trans hstart')
      | true =>
        obtain ⟨i, call, answer⟩ := m
        cases call with
        | set key' value ttl =>
          obtain ⟨n, hn, rfl⟩ := writeTime?_eq hstart
          cases (writeTime?_set (of_decide_eq_true hm)).symm.trans hstart'
          have hle : storeCalls base ≤ storeCalls h := hbase.sublist.countP_le
          have hlast : storeCalls (⟨i, .set key' value ttl, answer⟩ :: h) = storeCalls h + 1 :=
            StoreStart.storeCalls_op rfl answer h
          exact forward n (storeCalls h) (by omega) (by omega)
        | _ => cases hm

theorem exchanges_subset {keys : CredentialKeys} (hs : base <:+ h) :
    exchanges keys base ⊆ exchanges keys h := by
  obtain ⟨later, rfl⟩ := hs
  induction later with
  | nil => exact List.Subset.refl _
  | cons m later ih => exact List.Subset.trans ih (exchanges_cons keys m _)

end Histories

/-- What a call makes of a store in memory. -/
def Call.onMemory (now : Instant) (m : MemoryStore) : Call → MemoryStore
  | .set key value ttl => m.set now key value ttl
  | .remove key => m.remove key
  | _ => m

theorem Endpoint.react_memory (e : Endpoint) (id : Nat) {w : World} {m : MemoryStore}
    (hs : w.store = .memory m) (hf : w.faults = []) (c : Call) :
    (e.react id c w).2.clock = w.clock ∧
      (e.react id c w).2.reads = w.reads + storeCalls [⟨id, c, (e.react id c w).1.answer⟩] ∧
      (e.react id c w).2.faults = [] ∧
      (e.react id c w).2.store = .memory (c.onMemory w.now m) := by
  cases hc : c.storeOp? with
  | none =>
    have hshelf := e.react_shelf id hc w
    simp only [World.shelf, Prod.mk.injEq] at hshelf
    obtain ⟨hclock, hreads, hstore, -, hfaults⟩ := hshelf
    refine ⟨hclock, ?_, hfaults.trans hf, ?_⟩
    · rw [hreads, StoreStart.storeCalls_quiet hc]
      rfl
    · rw [hstore, hs]
      cases c <;> first | rfl | cases hc
  | some op =>
    cases c with
    | get key =>
      have hr : (e.react id (.get key) w).2 = (w.get key).2 := rfl
      rw [hr, World.get_memory hs hf]
      exact ⟨rfl, rfl, hf, hs⟩
    | set key value ttl =>
      have hr : (e.react id (.set key value ttl) w).2 = (w.set key value ttl).2 := rfl
      rw [hr, World.set_memory hs hf]
      exact ⟨rfl, rfl, hf, rfl⟩
    | remove key =>
      have hr : (e.react id (.remove key) w).2 = (w.remove key).2 := rfl
      rw [hr, World.remove_memory hs hf]
      exact ⟨rfl, rfl, hf, rfl⟩
    | _ => cases hc

/-- A scene of calls that began in a world, over a working store in memory. -/
structure World.Leads (w : World) (m : MemoryStore) (v : Scene) : Prop where
  clock : v.world.clock = w.clock
  reads : v.world.reads = w.reads + storeCalls v.past
  reliable : v.world.faults = []
  memory : v.world.store = .memory m

namespace World.Leads

variable {w : World} {m : MemoryStore} {v : Scene} (e : Endpoint) (id : Nat)

theorem now (h : w.Leads m v) : v.world.now = w.clock (w.reads + storeCalls v.past) := by
  rw [World.now, h.clock, h.reads]

theorem step (h : w.Leads m v) (c : Call) :
    w.Leads (c.onMemory v.world.now m) (e.scenes.react id c v).2 := by
  obtain ⟨hclock, hreads, hfaults, hstore⟩ := e.react_memory id h.memory h.reliable c
  have hcount : storeCalls (e.scenes.react id c v).2.past =
      storeCalls v.past + storeCalls [⟨id, c, (e.react id c v.world).1.answer⟩] :=
    storeCalls_cons _ _
  refine ⟨hclock.trans h.clock, ?_, hfaults, hstore⟩
  rw [hcount, ← Nat.add_assoc, ← h.reads]
  exact hreads

theorem get_answer (h : w.Leads m v) (key : String) :
    (e.scenes.react id (.get key) v).1.answer = .ok (m.get v.world.now key) := by
  show (v.world.get key).1 = _
  rw [World.get_memory h.memory h.reliable]

theorem set_answer (h : w.Leads m v) (key : String) (value : Secret) (ttl : Span) :
    (e.scenes.react id (.set key value ttl) v).1.answer = .ok () := by
  show (v.world.set key value ttl).1 = _
  rw [World.set_memory h.memory h.reliable]

theorem remove_answer (h : w.Leads m v) (key : String) :
    (e.scenes.react id (.remove key) v).1.answer = .ok () := by
  show (v.world.remove key).1 = _
  rw [World.remove_memory h.memory h.reliable]

end World.Leads

namespace SessionCall

/-- Whether a call is neither a login nor a logout. -/
def staysLoggedIn : SessionCall → Bool
  | login _ _ => false
  | logout => false
  | _ => true

def runAll (s : Session Script) : List SessionCall → Script Unit
  | [] => pure ()
  | call :: calls => do
    call.run s
    runAll s calls

end SessionCall

/-- Every exchange that was sent so far was granted. -/
def Scene.IsGranted (keys : CredentialKeys) (v : Scene) : Prop :=
  ∀ answer ∈ exchanges keys v.past, ∃ grant, granted answer = .ok grant

/-- A refresh credential that a session was given, in the world where its login began. -/
structure Lease where
  world : World
  options : SessionOptions
  token : Secret
  distinct : options.keys.access ≠ options.keys.refresh

namespace Lease

variable (l : Lease)

/-- The credential was written last at some time, with the span of the options, and the store has it
unless the span has passed. Nothing else was written to its key. -/
structure Stands (v : Scene) (m : MemoryStore) (start : Instant) : Prop where
  leads : l.world.Leads m v
  written : l.world.writeTime? l.options.keys.refresh v.past = some start
  entry : m.entries.get? l.options.keys.refresh = some (.stamp l.token start l.options.ttl) ∨
    m.entries.get? l.options.keys.refresh = none ∧
      l.world.Passed v.past (start.plus l.options.ttl)
  same : ∀ moment ∈ v.past, ∀ value ttl,
    moment.call = .set l.options.keys.refresh value ttl → value = l.token ∧ ttl = l.options.ttl

def Holds (v : Scene) : Prop := ∃ m start, l.Stands v m start

/-- The span from the latest write has passed. -/
def Lapsed (v : Scene) : Prop :=
  ∃ start, l.world.writeTime? l.options.keys.refresh v.past = some start ∧
    l.world.Passed v.past (start.plus l.options.ttl)

/-- What a call must heed for the credential to hold: it is written only as it is, and removed only
after its time. -/
def Heeds (v : Scene) : Call → Prop
  | .set key value ttl => key = l.options.keys.refresh → value = l.token ∧ ttl = l.options.ttl
  | .remove key => key = l.options.keys.refresh → l.Lapsed v
  | _ => True

variable {l} {v : Scene} {m : MemoryStore} {start : Instant} {e : Endpoint}
  {id : Nat} {c : Call}

theorem Lapsed.step (h : l.Lapsed v) (hc : c.writes l.options.keys.refresh = false) :
    l.Lapsed (e.scenes.react id c v).2 := by
  obtain ⟨start, hwritten, hpassed⟩ := h
  exact ⟨start, (writeTime?_unwritten hc).trans hwritten, hpassed.cons _⟩

/-- A call that writes nothing to the refresh key, by what it makes of the entry. -/
theorem Stands.unwritten (h : l.Stands v m start)
    (hc : c.writes l.options.keys.refresh = false)
    (hentry : (c.onMemory v.world.now m).entries.get? l.options.keys.refresh =
        m.entries.get? l.options.keys.refresh ∨
      (c.onMemory v.world.now m).entries.get? l.options.keys.refresh = none ∧
        l.world.Passed v.past (start.plus l.options.ttl)) :
    l.Stands (e.scenes.react id c v).2 (c.onMemory v.world.now m) start where
  leads := h.leads.step e id c
  written := (writeTime?_unwritten hc).trans h.written
  entry := by
    rcases hentry with hsame | ⟨hnone, hpassed⟩
    · rw [hsame]
      exact h.entry.imp_right fun hgone => ⟨hgone.1, hgone.2.cons _⟩
    · exact .inr ⟨hnone, hpassed.cons _⟩
  same moment hmoment value ttl hset := by
    rcases List.mem_cons.mp hmoment with rfl | hmoment
    · have hcall : c = .set l.options.keys.refresh value ttl := hset
      subst hcall
      simp [Call.writes] at hc
    · exact h.same moment hmoment value ttl hset

theorem Holds.step (h : l.Holds v) (hc : l.Heeds v c) :
    l.Holds (e.scenes.react id c v).2 := by
  obtain ⟨m, start, h⟩ := h
  cases c with
  | set key value ttl =>
    by_cases hk : key = l.options.keys.refresh
    · obtain ⟨rfl, rfl⟩ := hc hk
      subst hk
      refine ⟨_, v.world.now, h.leads.step e id _, ?_, .inl ?_, ?_⟩
      · rw [h.leads.now]
        exact writeTime?_set rfl
      · simp [Call.onMemory, MemoryStore.set]
      · intro moment hmoment value ttl hset
        rcases List.mem_cons.mp hmoment with rfl | hmoment
        · cases hset
          exact ⟨rfl, rfl⟩
        · exact h.same moment hmoment value ttl hset
    · refine ⟨_, start, h.unwritten (decide_eq_false hk) (.inl ?_)⟩
      simp [Call.onMemory, MemoryStore.set, Ne.symm hk]
  | remove key =>
    refine ⟨_, start, h.unwritten rfl ?_⟩
    by_cases hk : key = l.options.keys.refresh
    · -- What is removed could not be read any more.
      obtain ⟨start', hwritten, hpassed⟩ := hc hk
      cases hwritten.symm.trans h.written
      subst hk
      exact .inr ⟨by simp [Call.onMemory, MemoryStore.remove], hpassed⟩
    · exact .inl (by simp [Call.onMemory, MemoryStore.remove, Ne.symm hk])
  | _ => exact ⟨_, start, h.unwritten rfl (.inl rfl)⟩

theorem Stands.get (h : l.Stands v m start) {t : Instant}
    (now : ∀ n < storeCalls v.past, ¬ t < l.world.clock (l.world.reads + n)) :
    m.get t l.options.keys.refresh =
      if t < start.plus l.options.ttl then some l.token else none := by
  unfold MemoryStore.get
  rcases h.entry with hentry | ⟨hentry, n, hn, hpassed⟩
  · rw [hentry, liveValue, Option.filter, StoredEntry.isLive, StoredEntry.stamp]
    by_cases hlive : t < start.plus l.options.ttl <;> simp [hlive]
  · have hlate : ¬ t < start.plus l.options.ttl := fun hlt =>
      now n hn (Instant.lt_of_lt_of_not_lt hlt hpassed)
    rw [hentry, if_neg hlate]
    rfl

variable (l) in
/-- Whether the credential holds throughout a program, as long as every exchange is granted, and the
result is then what is wanted. -/
def Guards {α : Type} (e : Endpoint) (id : Nat) (wants : α → Scene → Prop)
    (p : Script α) (v : Scene) : Prop :=
  p.Stays e.scenes id (fun v => v.IsGranted l.options.keys → l.Holds v)
    (fun a v => v.IsGranted l.options.keys → wants a v) v

section Programs

variable {α β : Type} {wants : α → Scene → Prop} {wants' : β → Scene → Prop} {p : Script α}

/-- After a refused exchange there is nothing to show. -/
theorem guards_of_refused (h : ¬ v.IsGranted l.options.keys) : l.Guards e id wants p v := by
  induction p generalizing v with
  | done a => exact ⟨fun hg => absurd hg h, fun hg => absurd hg h⟩
  | ask c next ih =>
    refine ⟨fun hg => absurd hg h, ih _ fun hg => h fun answer hanswer => ?_⟩
    exact hg answer (exchanges_cons _ _ _ hanswer)

theorem Guards.call {f : c.Answer → Script α} (h : l.Holds v) (hc : l.Heeds v c)
    (hf : (e.scenes.react id c v).2.IsGranted l.options.keys →
      l.Holds (e.scenes.react id c v).2 →
      l.Guards e id wants (f (e.scenes.react id c v).1.answer) (e.scenes.react id c v).2) :
    l.Guards e id wants (Script.ask c >>= f) v := by
  refine ⟨fun _ => h, ?_⟩
  by_cases hg : (e.scenes.react id c v).2.IsGranted l.options.keys
  · exact hf hg (h.step hc)
  · exact guards_of_refused hg

theorem Guards.done {a : α} (h : l.Holds v) (hw : wants a v) :
    l.Guards e id wants (pure a) v := ⟨fun _ => h, fun _ => hw⟩

theorem Guards.bind {f : α → Script β} (h : l.Guards e id wants p v)
    (hf : ∀ a v, v.IsGranted l.options.keys → l.Holds v → wants a v →
      l.Guards e id wants' (f a) v) :
    l.Guards e id wants' (p >>= f) v := by
  refine Program.Stays.bind h fun a v hholds hwants => ?_
  by_cases hg : v.IsGranted l.options.keys
  · exact hf a v hg (hholds hg) (hwants hg)
  · exact guards_of_refused hg

end Programs

variable (l) in
def session (destination : Url) (redirects : Bool) : Session Script :=
  Script.session destination l.options redirects

variable {destination : Url} {redirects : Bool}

@[simp]
theorem session_keys : (l.session destination redirects).keys = l.options.keys := rfl

@[simp]
theorem session_destination : (l.session destination redirects).destination = destination := rfl

/-- A reading finds the credential unless its span has passed. -/
theorem Stands.reading (e : Endpoint) (id : Nat) (h : l.Stands v m start) :
    m.get v.world.now l.options.keys.refresh = some l.token ∨
      m.get v.world.now l.options.keys.refresh = none ∧
        l.Lapsed (e.scenes.react id (.get l.options.keys.refresh) v).2 := by
  unfold MemoryStore.get
  rcases h.entry with hentry | ⟨hentry, hpassed⟩
  · rw [hentry, liveValue, Option.filter, StoredEntry.isLive, StoredEntry.stamp]
    by_cases hlive : v.world.now < start.plus l.options.ttl
    · simp [hlive]
    · refine .inr ⟨by simp [hlive], start, h.written, storeCalls v.past, ?_, ?_⟩
      · rw [Endpoint.scenes, StoreStart.storeCalls_op rfl]
        exact Nat.lt_succ_self _
      · rwa [← h.leads.now]
  · refine .inr ⟨by rw [hentry]; rfl, start, h.written, hpassed.cons _⟩

/-- What is sent after the refresh credential was read is its exchange. -/
theorem exchanges_of_reading (e : Endpoint) (id : Nat) (keys : CredentialKeys) (line : LogLine)
    (destination : Url) (message : Outgoing) (v : Scene) :
    let read := (e.scenes.react id (.get keys.refresh) v).2
    let sent := e.scenes.react id (.send destination message)
      (e.scenes.react id (.log line) read).2
    exchanges keys sent.2.past = sent.1.answer :: exchanges keys v.past := by
  refine (exchanges_send keys id destination message _ _).trans (if_pos ?_)
  refine (congrArg Tally.reading (tally_mk keys id _ _ _)).trans ?_
  exact congrArg Tally.reading (tally_mk keys id _ _ _)

/-- A refresh fails only once the span has passed. -/
theorem refresh_guards (h : l.Holds v) :
    l.Guards e id (fun result v => ∀ error, result = .error error → l.Lapsed v)
      (l.session destination redirects).refresh v := by
  simp only [Session.refresh_eq, session_keys, session_destination]
  refine .call h trivial fun _ hread => ?_
  obtain ⟨m, start, hstands⟩ := h
  rw [hstands.leads.get_answer]
  rcases hstands.reading e id with hlive | ⟨hdead, hlapsed⟩
  · rw [hlive]
    refine .call hread trivial fun _ hlogged => ?_
    refine .call hlogged trivial fun hgranted hsent => ?_
    have hexchanges := exchanges_of_reading e id l.options.keys
      ⟨.debug, "Exchanging refresh token for a new access token"⟩ destination
      (refreshRequest l.token).outgoing v
    obtain ⟨grant, hgrant⟩ := hgranted _ (hexchanges ▸ List.mem_cons_self)
    rw [hgrant]
    refine .call hsent (fun hk => absurd hk l.distinct) fun _ hstored => ?_
    obtain ⟨m₁, start₁, hstands₁⟩ := hsent
    rw [hstands₁.leads.set_answer]
    refine .call hstored (fun _ => ⟨rfl, rfl⟩) fun _ hrestored => ?_
    obtain ⟨m₂, start₂, hstands₂⟩ := hstored
    rw [hstands₂.leads.set_answer]
    refine .call hrestored trivial fun _ hend => ?_
    refine .done hend fun error herror => ?_
    cases herror
  · rw [hdead]
    exact .done hread fun _ _ => hlapsed

/-- With or without a gate, a recovery fails only once the span has passed. -/
theorem recover_guards (h : l.Holds v) :
    l.Guards e id (fun result v => ∀ error, result = .error error → l.Lapsed v)
      (l.session destination redirects).recover v := by
  have hmap {error : Failure} {outcome : RefreshOutcome} {v : Scene}
      (hlapsed : ∀ error, outcome = .error error → l.Lapsed v)
      (herror : (outcome.mapError fun e => e.message :: e.sources) = .error error) :
      l.Lapsed v := by
    cases outcome with
    | ok => cases herror
    | error e => exact hlapsed e rfl
  have hrefresh {v : Scene} (h : l.Holds v) :
      l.Guards e id (fun outcome v => ∀ error, outcome = .error error → l.Lapsed v)
        (l.session destination redirects).refreshOutcome v := by
    refine .bind (refresh_guards h) fun result v' _ hend hlapsed => ?_
    refine .done hend fun error herror => ?_
    cases result with
    | ok grant => cases herror
    | error e => exact hlapsed e rfl
  unfold session
  rw [Session.recover_eq]
  refine .bind ?_ fun outcome v' _ hend hlapsed => .done hend fun _ => hmap hlapsed
  cases l.options.singleFlight with
  | false => exact hrefresh h
  | true =>
    rw [if_pos rfl]
    unfold Gate.run
    refine .call h trivial fun _ hcounted => ?_
    refine .call hcounted trivial fun _ harrived => ?_
    refine .call harrived trivial fun _ hlooked => ?_
    refine .call hlooked trivial fun _ hentered => ?_
    -- No refresh finished in between, for there are no rivals.
    have halone : ¬ (e.scenes.react id .completed v).1.answer < (e.scenes.react id .completed
        (e.scenes.react id .acquire (e.scenes.react id .completed v).2).2).1.answer :=
      Nat.lt_irrefl v.world.gate.completed
    rw [if_neg halone]
    refine .bind (hrefresh hentered) fun outcome v' _ hrefreshed hlapsed => ?_
    refine .call hrefreshed trivial fun _ hsettled => ?_
    refine .call hsettled trivial fun _ hleft => ?_
    exact .done hleft fun error herror => ((hlapsed error herror).step rfl).step rfl

/-- A logout after the span leaves the credential absent, as it was. -/
theorem invalidate_guards (h : l.Holds v) (lapsed : l.Lapsed v) :
    l.Guards e id (fun _ _ => True) (l.session destination redirects).invalidate v := by
  have hlogout : l.Guards e id (fun _ _ => True)
      (l.session destination redirects).logout v := by
    unfold Session.logout BearerSession.logout
    refine .call h (fun _ => lapsed) fun _ hfirst => ?_
    refine .call hfirst (fun _ => lapsed.step rfl) fun _ hsecond => ?_
    obtain ⟨m₁, start₁, hstands⟩ := h
    obtain ⟨m₂, start₂, hstands₁⟩ := hfirst
    rw [hstands.leads.remove_answer, hstands₁.leads.remove_answer]
    refine .call hsecond trivial fun _ hlogged => ?_
    cases redirects with
    | false => exact .done hlogged trivial
    | true => exact .call hlogged trivial fun _ hend => .done hend trivial
  unfold Session.invalidate
  refine .bind hlogout fun result v _ hend _ => ?_
  cases result with
  | ok => exact .done hend trivial
  | error e => exact .call hend trivial fun _ hlogged => .done hlogged trivial

theorem attempt_guards (h : l.Holds v) (r : Request) (kind : Attempt) :
    l.Guards e id (fun _ _ => True) ((l.session destination redirects).attempt r kind) v := by
  rw [Session.attempt_eq]
  refine .call h trivial fun _ hread => ?_
  obtain ⟨m, start, hstands⟩ := h
  rw [hstands.leads.get_answer]
  refine .call hread trivial fun _ hlogged => ?_
  refine .call hlogged trivial fun _ hsent => .done hsent trivial

theorem request_guards (h : l.Holds v) (r : Request) :
    l.Guards e id (fun _ _ => True) ((l.session destination redirects).request r) v := by
  unfold Session.request Auth.send
  refine .bind (attempt_guards h r .primary) fun response v _ h _ => ?_
  cases response with
  | ok data => exact .done h trivial
  | error failure =>
    dsimp only
    cases failure.authFailure? with
    | none => exact .done h trivial
    | some reason =>
      refine .call h trivial fun _ h => ?_
      refine .bind (recover_guards h) fun recovery v _ h hlapsed => ?_
      cases recovery with
      | ok => exact attempt_guards h r .retry
      | error e =>
        refine .call h trivial fun _ h => ?_
        refine .bind (invalidate_guards h ((hlapsed _ rfl).step rfl)) fun _ v _ h _ => ?_
        exact attempt_guards h r .retry

theorem call_guards (h : l.Holds v) (call : SessionCall) (hcall : call.staysLoggedIn = true) :
    l.Guards e id (fun _ _ => True) (call.run (l.session destination redirects)) v := by
  have hrequest (r : Request) : l.Guards e id (fun _ _ => True)
      ((l.session destination redirects).request r) v := request_guards h r
  cases call with
  | request r => exact .bind (hrequest r) fun _ _ _ hend _ => .done hend trivial
  | requestAs r read =>
    have hdecoded : l.Guards e id (fun _ _ => True)
        ((l.session destination redirects).requestAs r read) v :=
      .bind (hrequest r) fun _ _ _ hend _ => .done hend trivial
    exact .bind hdecoded fun _ _ _ hend _ => .done hend trivial
  | refresh => exact .bind (refresh_guards h) fun _ _ _ hend _ => .done hend trivial
  | login email password => cases hcall
  | logout => cases hcall

theorem calls_guards (calls : List SessionCall) (hcalls : ∀ call ∈ calls, call.staysLoggedIn = true)
    (h : l.Holds v) :
    l.Guards e id (fun _ _ => True)
      (SessionCall.runAll (l.session destination redirects) calls) v := by
  induction calls generalizing v with
  | nil => exact .done h trivial
  | cons call calls ih =>
    refine .bind (call_guards h call (hcalls call List.mem_cons_self)) fun _ v _ hend _ => ?_
    exact ih (fun c hc => hcalls c (List.mem_cons_of_mem _ hc)) hend

theorem keepPair_alone (h : l.world.Leads m v) (email : String) (pair : TokenPair) :
    ((l.session destination redirects).keepPair email pair).alone e.scenes id v =
      (.ok pair, (e.scenes.react id (.log ⟨.info, "Logged in as " ++ email⟩)
        (e.scenes.react id (.set l.options.keys.refresh pair.refresh l.options.ttl)
          (e.scenes.react id (.set l.options.keys.access pair.access l.options.ttl)
            v).2).2).2) := by
  have hset {m : MemoryStore} {v : Scene} (h : l.world.Leads m v) (key : String) (value : Secret) :
      (Script.store.set key value l.options.ttl).alone e.scenes id v =
        (.ok (), (e.scenes.react id (.set key value l.options.ttl) v).2) :=
    Prod.ext (h.set_answer e id key value _) rfl
  have hstored : ((l.session destination redirects).store.storePair l.options.keys pair
      l.options.ttl).alone e.scenes id v = (.ok (), _) :=
    (Program.alone_bind_of (hset h l.options.keys.access pair.access) _).trans
      (hset (h.step e id _) l.options.keys.refresh pair.refresh)
  exact Program.alone_bind_of hstored _

/-- A login that succeeds leaves its refresh credential in the store. -/
theorem login_holds (memory : l.world.store = .memory m) (reliable : l.world.faults = [])
    {email : String} {password : Secret} {pair : TokenPair} (htoken : pair.refresh = l.token)
    (login : ((l.session destination redirects).login email password).alone e.scenes id
      ⟨l.world, []⟩ = (.ok pair, v)) : l.Holds v := by
  have hbegin : l.world.Leads m ⟨l.world, []⟩ := ⟨rfl, rfl, reliable, memory⟩
  have hsent := hbegin.step e id
    (.send destination (loginRequest email password).outgoing)
  obtain ⟨answer, u, hsend, hsent, hpast⟩ : ∃ answer u,
      ((l.session destination redirects).transport.send
        (l.session destination redirects).destination
        (loginRequest email password).outgoing).alone e.scenes id ⟨l.world, []⟩ = (answer, u) ∧
      l.world.Leads m u ∧ ∀ moment ∈ u.past, moment.call.writes l.options.keys.refresh = false :=
    ⟨_, _, rfl, hsent, fun moment hmoment => by cases List.mem_singleton.mp hmoment; rfl⟩
  rw [Session.login_eq, Program.alone_bind_of hsend] at login
  cases hgrant : loginGrant answer with
  | error error =>
    rw [hgrant] at login
    cases login
  | ok pair' =>
    rw [hgrant] at login
    cases (keepPair_alone hsent email pair').symm.trans login
    have hstored := hsent.step e id
      (.set l.options.keys.access pair.access l.options.ttl)
    refine ⟨_, _, (hstored.step e id _).step e id _, if_pos rfl, .inl ?_, ?_⟩
    · rw [← hstored.now, htoken]
      simp [Call.onMemory, MemoryStore.set]
    · intro moment hmoment value ttl hset
      rcases List.mem_cons.mp hmoment with rfl | hmoment
      · cases hset
      rcases List.mem_cons.mp hmoment with rfl | hmoment
      · cases hset
        exact ⟨htoken, rfl⟩
      rcases List.mem_cons.mp hmoment with rfl | hmoment
      · injection hset with hkey
        exact absurd hkey l.distinct
      · have hunwritten := hpast moment hmoment
        rw [hset] at hunwritten
        simp [Call.writes] at hunwritten

variable (l) in
/-- The refresh credential at some moment, as compared with an earlier one: it was written last at
some time, lives exactly from then on for the span, and never was another. -/
structure Slides (days : Int) (earlier v : Scene) (m : MemoryStore) (start : Instant) : Prop where
  memory : v.world.store = .memory m
  written : l.world.writeTime? l.options.keys.refresh v.past = some start
  span : (start.plus l.options.ttl).nanos = start.nanos + days * 86400000000000
  reads : ∀ t, (∀ n < storeCalls v.past, ¬ t < l.world.clock (l.world.reads + n)) →
    m.get t l.options.keys.refresh =
      if t < start.plus l.options.ttl then some l.token else none
  same : ∀ moment ∈ v.past, ∀ value ttl,
    moment.call = .set l.options.keys.refresh value ttl → value = l.token ∧ ttl = l.options.ttl
  later : ∀ start', l.world.writeTime? l.options.keys.refresh earlier.past = some start' →
    ¬ start < start'

end Lease

section Untroubled

variable (s : Session Script) (e : Endpoint) (id : Nat)

/-- Whether the first attempt of a request would be refused for want of credentials. -/
def Session.Refused (v : Scene) (r : Request) : Prop :=
  ∃ failure reason, failure.authFailure? = some reason ∧
    ((s.attempt r .primary).alone e.scenes id v).1 = .error failure

/-- Whether a call does more than one attempt. -/
def SessionCall.NeedsRecovery (v : Scene) : SessionCall → Prop
  | request r => s.Refused e id v r
  | requestAs r _ => s.Refused e id v r
  | _ => True

variable {s e id} {destination : Url} {options : SessionOptions} {redirects : Bool} {w : World}
  {key : String} {v : Scene}

open Program (Stays)

theorem attempt_writes_nothing (r : Request) (kind : Attempt) :
    ((Script.session destination options redirects).attempt r kind).Stays e.scenes id
      (fun v' => w.writeTime? key v'.past = w.writeTime? key v.past) (fun _ _ => True) v := by
  rw [Session.attempt_eq]
  refine .call rfl ?_
  cases (e.scenes.react id
    (.get (Script.session destination options redirects).keys.access) v).1.answer with
  | error error =>
    refine .call rfl ?_
    refine .call rfl ?_
    refine .call rfl ?_
    exact ⟨rfl, trivial⟩
  | ok access =>
    refine .call rfl ?_
    refine .call rfl ?_
    exact ⟨rfl, trivial⟩

theorem request_writes_nothing {r : Request}
    (fine : ¬ (Script.session destination options redirects).Refused e id v r) :
    ((Script.session destination options redirects).request r).Stays e.scenes id
      (fun v' => w.writeTime? key v'.past = w.writeTime? key v.past) (fun _ _ => True) v := by
  unfold Session.request Auth.send
  refine Stays.bind (attempt_writes_nothing r .primary).result fun response v' hinv hresult => ?_
  cases response with
  | ok data => exact ⟨hinv, trivial⟩
  | error failure =>
    have hnone : failure.authFailure? = none := by
      refine Option.eq_none_iff_forall_ne_some.mpr fun reason hreason => fine ?_
      exact ⟨failure, reason, hreason, (congrArg Prod.fst hresult).symm⟩
    simp only [hnone]
    exact ⟨hinv, trivial⟩

theorem call_writes_nothing {call : SessionCall}
    (fine : ¬ call.NeedsRecovery (Script.session destination options redirects) e id v) :
    (call.run (Script.session destination options redirects)).Stays e.scenes id
      (fun v' => w.writeTime? key v'.past = w.writeTime? key v.past) (fun _ _ => True) v := by
  cases call with
  | request r => exact (request_writes_nothing fine).bind fun _ _ h _ => ⟨h, trivial⟩
  | requestAs r read =>
    have hdecoded : ((Script.session destination options redirects).requestAs r read).Stays e.scenes
        id (fun v' => w.writeTime? key v'.past = w.writeTime? key v.past) (fun _ _ => True) v :=
      (request_writes_nothing fine).bind fun _ _ h _ => ⟨h, trivial⟩
    exact hdecoded.bind fun _ _ h _ => ⟨h, trivial⟩
  | _ => exact absurd trivial fine

end Untroubled

open Lease in
/-- After a login, while calls follow one another without another login or a logout and every
exchange is granted, the refresh key reads the credential of the login for the whole span from its
latest write, and nothing after that. What needs no recovery does not move that write, and no call
moves it back. -/
theorem horizon_slides (l : Lease) {m₀ : MemoryStore} (days : Int)
    (memory : l.world.store = .memory m₀) (reliable : l.world.faults = [])
    (whole : ttlOfDays days = .ok l.options.ttl) (e : Endpoint) (id : Nat) (destination : Url)
    (redirects : Bool) {email : String} {password : Secret} {pair : TokenPair} {begun s v : Scene}
    (token : pair.refresh = l.token)
    (login : ((l.session destination redirects).login email password).alone e.scenes id
      ⟨l.world, []⟩ = (.ok pair, begun))
    (calls more : List SessionCall) (staying : ∀ call ∈ calls ++ more, call.staysLoggedIn = true)
    (ran : ((SessionCall.runAll (l.session destination redirects) calls).alone e.scenes id
      begun).2 = s)
    (met : (SessionCall.runAll (l.session destination redirects) more).Meets e.scenes id s v)
    (forward : ∀ n n', n ≤ n' → n' < storeCalls v.past →
      ¬ l.world.clock (l.world.reads + n') < l.world.clock (l.world.reads + n))
    (inRange : ∀ n < storeCalls v.past,
      (l.world.clock (l.world.reads + n)).nanos + days * 86400000000000 ≤ Instant.greatest.nanos)
    (granted : v.IsGranted l.options.keys) :
    (∃ m start, l.Slides days s v m start) ∧
    ∀ call : SessionCall, ¬ call.NeedsRecovery (l.session destination redirects) e id s →
      ∀ v', (call.run (l.session destination redirects)).Meets e.scenes id s v' →
        l.world.writeTime? l.options.keys.refresh v'.past =
          l.world.writeTime? l.options.keys.refresh s.past := by
  constructor
  · -- The credential holds from the login on, through the earlier calls, to every later moment.
    have hbegun : l.Holds begun := login_holds memory reliable token login
    have hgranted : s.IsGranted l.options.keys := fun answer hanswer =>
      granted answer (exchanges_subset met.suffix hanswer)
    have hs : l.Holds s := by
      subst ran
      have hcalls : l.Guards e id (fun _ _ => True)
          (SessionCall.runAll (l.session destination redirects) calls) begun :=
        calls_guards calls (fun c hc => staying c (List.mem_append_left _ hc)) hbegun
      exact hcalls.alone.1 hgranted
    have hmore : l.Guards e id (fun _ _ => True)
        (SessionCall.runAll (l.session destination redirects) more) s :=
      calls_guards more (fun c hc => staying c (List.mem_append_right _ hc)) hs
    obtain ⟨m, start, h⟩ := hmore.meets met granted
    refine ⟨m, start, h.leads.memory, h.written, ?_, fun t => h.get, h.same, fun start' hs => ?_⟩
    · obtain ⟨n, hn, rfl⟩ := writeTime?_eq h.written
      obtain ⟨hdays, hnanos⟩ := nanos_of_days whole
      rw [← hnanos]
      exact Instant.nanos_plus_of_le (by omega) (by rw [hnanos]; exact inRange n hn)
    · exact writeTime?_mono met.suffix forward hs h.written
  · intro call fine v' hmet
    exact (call_writes_nothing fine).meets hmet

/-- An endpoint that grants a login, and a refresh after its credential was read. -/
def obligingEndpoint : Endpoint where
  outcome w :=
    match w.record with
    | .send _ _ :: .get _ :: _ =>
      .ok (.ofData (.object [("refreshToken", .object [("accessToken", .string "renewed")])]))
    | _ =>
      .ok (.ofData (.object [("login", .object
        [("accessToken", .string "new"), ("refreshToken", .string "newer")])]))
  delay _ := 0
  left w := w.replies

/-- So many seconds after 1970 began, as far as the hour. -/
def tick (n : Nat) : Instant :=
  { Instant.least with
    second := if n < 3600 then n else 3600
    lower := by omega
    upper := by omega }

/-- A login at a clock that ticks with every call of the store. -/
def tickingLease : Lease where
  world := { stillWorld {} .least with clock := tick }
  options := {}
  token := ⟨"newer"⟩
  distinct := by decide

/-- The theorem for a login and a refresh: the latest write was that of the refresh, three seconds
after the login. -/
theorem horizon_slides_of_refresh :
    let s := tickingLease.session { scheme := "http", path := .segments [] } true
    let begun := ((s.login "user" ⟨"secret"⟩).alone obligingEndpoint.scenes 0
      ⟨tickingLease.world, []⟩).2
    let v := ((SessionCall.runAll s [.refresh]).alone obligingEndpoint.scenes 0 begun).2
    tickingLease.world.writeTime? "refreshToken" begun.past = some (tick 1) ∧
      ∃ m, tickingLease.Slides 7 begun v m (tick 4) := by
  intro s begun v
  have login : (s.login "user" ⟨"secret"⟩).alone obligingEndpoint.scenes 0
      ⟨tickingLease.world, []⟩ = (.ok ⟨⟨"new"⟩, ⟨"newer"⟩, "Bearer"⟩, begun) := rfl
  have hnanos (n : Nat) : (tick n).nanos = (if n < 3600 then (n : Int) else 3600) * 1000000000 := Int.add_zero _
  have hgreatest : Instant.greatest.nanos = 8210266876799999999999 := rfl
  have hmeets : (SessionCall.runAll s [.refresh]).Meets obligingEndpoint.scenes 0 begun v :=
    Program.meets_end _ _ _ _
  have hall : (exchanges tickingLease.options.keys v.past).all (fun a => (granted a).isOk) =
      true := by decide +kernel
  obtain ⟨⟨m, start, h⟩, -⟩ := horizon_slides tickingLease 7 rfl rfl rfl obligingEndpoint 0
    { scheme := "http", path := .segments [] } true rfl login [] [.refresh] (by decide) rfl hmeets
    (fun n n' hn _ => by
      show ¬ tick (0 + n') < tick (0 + n)
      rw [Instant.lt_iff]
      simp only [tick]
      omega)
    (fun n _ => by
      show (tick (0 + n)).nanos + 7 * 86400000000000 ≤ _
      rw [hnanos, hgreatest]
      omega)
    (fun answer hanswer => by
      have hgranted := List.all_eq_true.mp hall answer hanswer
      cases hg : granted answer with
      | ok grant => exact ⟨grant, rfl⟩
      | error e => rw [hg] at hgranted; cases hgranted)
  have hlast : tickingLease.world.writeTime? "refreshToken" v.past = some (tick 4) := by
    decide +kernel
  cases hlast.symm.trans h.written
  exact ⟨by decide +kernel, m, h⟩

end BearerSession
