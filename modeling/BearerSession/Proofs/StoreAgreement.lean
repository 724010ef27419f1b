import BearerSession.Proofs.StoreBackends

namespace BearerSession

namespace AnyStore

/-- The calls of a store of any kind at some time. -/
def calls (now : Instant) : Store (StateM (AnyStore × Machine)) where
  get key := fun (s, machine) =>
    let (result, s, machine, _) := s.get now key machine
    (result, s, machine)
  set key value ttl := fun (s, machine) => s.set now key value ttl machine
  remove key := fun (s, machine) => s.remove now key machine

/-- The replies to calls at their times. -/
def replies (state : AnyStore × Machine) :
    List (Instant × StoreOp) → List (Except StoreError StoreReply)
  | [] => []
  | (now, op) :: ops =>
    let (reply, state) := op.perform (calls now) state
    reply :: replies state ops

/-- Whether a store holds nothing and can rely on its machine. -/
inductive IsFresh : AnyStore → Machine → Prop
  | memory (machine : Machine) : IsFresh (.memory {}) machine
  | file {jar : FileJar} {machine : Machine} : jar.data.entries = .empty →
      machine.disk.IsWritable jar.path FileJar.mode → IsFresh (.file jar) machine
  | keyring {k : Keyring} {machine : Machine} : machine.vault.faults = [] →
      (∀ key, machine.vault.items.get? (k.service key) = none) → IsFresh (.keyring k) machine
  | request {jar : RequestJar} (machine : Machine) : jar.cookies = .empty →
      IsFresh (.request jar) machine

/-- Whether a store can carry a call: a jar of cookies needs names and values of cookies. -/
def Carries : AnyStore → StoreOp → Prop
  | .request _, op => op.IsCookie
  | _, _ => True

/-- Whether a store on its machine keeps all promises, from some time on. -/
inductive Keeps (past : StoreHistory) (mark : Instant) : AnyStore → Machine → Prop
  | memory {s : MemoryStore} {machine : Machine} : KeepsPromises past mark s.get →
      Keeps past mark (.memory s) machine
  | file {jar : FileJar} {machine : Machine} : KeepsPromises past mark jar.get →
      machine.disk.IsWritable jar.path FileJar.mode → Keeps past mark (.file jar) machine
  | keyring {k : Keyring} {machine : Machine} {entries : String → Option StoredEntry} :
      KeepsPromises past mark (fun t key => liveValue t (entries key)) →
      k.Holds machine.vault entries → Keeps past mark (.keyring k) machine
  | request {jar : RequestJar} {machine : Machine} : KeepsPromises past mark jar.get →
      Keeps past mark (.request jar) machine

variable {past : StoreHistory} {now mark mark' : Instant} {s : AnyStore} {machine : Machine}

theorem IsFresh.keeps (h : IsFresh s machine) (mark : Instant) : Keeps [] mark s machine := by
  cases h with
  | memory => exact .memory (.of_eq fun t key => rfl)
  | file hempty hw =>
    refine .file (.of_eq fun t key => ?_) hw
    unfold FileJar.get
    rw [hempty]
    rfl
  | @keyring k machine hf hitems =>
    have hlook : KeepsPromises [] mark fun t key => liveValue t ((fun _ => none) key) :=
      .of_eq fun t key => rfl
    have hv : k.Holds machine.vault fun _ => none := ⟨hf, hitems, fun key e he => nomatch he⟩
    exact .keyring hlook hv
  | request _ hempty =>
    refine .request (.of_eq fun t key => ?_)
    unfold RequestJar.get
    rw [hempty]
    rfl

theorem Keeps.later (h : Keeps past mark s machine) (ht : ¬ mark' < mark) :
    Keeps past mark' s machine := by
  cases h with
  | memory h => exact .memory (h.later ht)
  | file h hw => exact .file (h.later ht) hw
  | keyring h hv => exact .keyring (h.later ht) hv
  | request h => exact .request (h.later ht)

/-- What a call is to do: give a reply, keep all promises, and leave a store that carries no fewer
calls. -/
def Obeys (past : StoreHistory) (now mark : Instant) (s : AnyStore) {α : Type} (reply : α)
    (op : StoreOp) (outcome : Except StoreError α × AnyStore × Machine) : Prop :=
  outcome.1 = .ok reply ∧ Keeps ((now, op) :: past) mark outcome.2.1 outcome.2.2 ∧
    ∀ op, s.Carries op → outcome.2.1.Carries op

/-- A reading gives what is promised, or nothing if the clock has gone back. -/
theorem get_obeys (h : Keeps past mark s machine) (hmark : ¬ mark < now) (key : String)
    {op : StoreOp} (hop : ∀ key, op.writes key = false) :
    ∃ reply, (reply = promised past now key ∨ now < mark ∧ reply = none) ∧
      Obeys past now mark s reply op ((calls now).get key (s, machine)) := by
  cases h with
  | memory h => exact ⟨_, h now key, rfl, .memory (h.read hop), fun _ => id⟩
  | file h hw => exact ⟨_, h now key, rfl, .file (h.read hop) hw, fun _ => id⟩
  | request h => exact ⟨_, h now key, rfl, .request (h.read hop), fun _ => id⟩
  | @keyring k machine entries h hv =>
    obtain ⟨vault', lines, entries', hget, hv', hshows⟩ := Keyring.get_spec hv now key
    have hcall : (calls now).get key (.keyring k, machine) =
        (.ok (liveValue now (entries key)), .keyring k, { machine with vault := vault' }) := by
      simp only [calls, AnyStore.get, hget]
    rw [hcall]
    have hkeeps : KeepsPromises past mark fun t key' => liveValue t (entries' key') :=
      (hshows.later hmark).trans h
    exact ⟨_, h now key, rfl, .keyring (hkeeps.read hop) hv', fun _ => id⟩

theorem set_obeys (h : Keeps past mark s machine) (hmark : ¬ mark < now) (key : String)
    (value : Secret) (ttl : Span) (hc : s.Carries (.set key value ttl)) :
    Obeys past now mark s () (.set key value ttl) ((calls now).set key value ttl (s, machine)) := by
  cases h with
  | @memory m machine h =>
    exact ⟨rfl, .memory (h.set (.of_eq fun t key' => m.get_set)), fun _ => id⟩
  | @file jar machine h hw =>
    obtain ⟨jar', disk', hset, hw', hlook⟩ := jar.set_spec hw now key value ttl
    have hcall : (calls now).set key value ttl (.file jar, machine) =
        (.ok (), .file jar', { machine with disk := disk' }) := by
      simp only [calls, AnyStore.set, hset]
    rw [hcall]
    exact ⟨rfl, .file (h.set (hlook.later hmark)) hw', fun _ => id⟩
  | @request jar machine h =>
    obtain ⟨jar', hset, hlook⟩ := jar.set_spec now ttl hc
    have hcall : (calls now).set key value ttl (.request jar, machine) =
        (.ok (), .request jar', machine) := by
      simp only [calls, AnyStore.set, hset]
    rw [hcall]
    exact ⟨rfl, .request (h.set (.of_eq hlook)), fun _ => id⟩
  | @keyring k machine entries h hv =>
    obtain ⟨vault', hset, hv'⟩ := Keyring.set_spec hv now key value ttl
    have hcall : (calls now).set key value ttl (.keyring k, machine) =
        (.ok (), .keyring k, { machine with vault := vault' }) := by
      simp only [calls, AnyStore.set, hset]
    rw [hcall]
    refine ⟨rfl, .keyring (h.set (.of_eq fun t key' => ?_)) hv', fun _ => id⟩
    split <;> rfl

theorem remove_obeys (h : Keeps past mark s machine) (hmark : ¬ mark < now) (key : String)
    (hc : s.Carries (.remove key)) :
    Obeys past now mark s () (.remove key) ((calls now).remove key (s, machine)) := by
  cases h with
  | @memory m machine h =>
    exact ⟨rfl, .memory (h.remove (.of_eq fun t key' => m.get_remove)), fun _ => id⟩
  | @file jar machine h hw =>
    obtain ⟨jar', disk', hremove, hw', hlook⟩ := jar.remove_spec hw now key
    have hcall : (calls now).remove key (.file jar, machine) =
        (.ok (), .file jar', { machine with disk := disk' }) := by
      simp only [calls, AnyStore.remove, hremove]
    rw [hcall]
    exact ⟨rfl, .file (h.remove (hlook.later hmark)) hw', fun _ => id⟩
  | @request jar machine h =>
    obtain ⟨jar', hremove, hlook⟩ := jar.remove_spec hc
    have hcall :
        (calls now).remove key (.request jar, machine) = (.ok (), .request jar', machine) := by
      simp only [calls, AnyStore.remove, hremove]
    rw [hcall]
    exact ⟨rfl, .request (h.remove (.of_eq hlook)), fun _ => id⟩
  | @keyring k machine entries h hv =>
    obtain ⟨vault', hremove, hv'⟩ := Keyring.remove_spec hv key
    have hcall : (calls now).remove key (.keyring k, machine) =
        (.ok (), .keyring k, { machine with vault := vault' }) := by
      simp only [calls, AnyStore.remove, hremove]
    rw [hcall]
    refine ⟨rfl, .keyring (h.remove (.of_eq fun t key' => ?_)) hv', fun _ => id⟩
    split <;> rfl

/-- One call, whatever the kind of the store. -/
theorem perform_obeys (h : Keeps past now s machine) (op : StoreOp) (hc : s.Carries op) :
    Obeys past now now s (promisedReply past now op) op (op.perform (calls now) (s, machine)) := by
  have hnow := Instant.not_lt_self now
  have hget (key : String) {op : StoreOp} (hop : ∀ key, op.writes key = false) :
      Obeys past now now s (promised past now key) op ((calls now).get key (s, machine)) := by
    obtain ⟨reply, hpromised, hobeys⟩ := get_obeys h hnow key hop
    rwa [← hpromised.resolve_right fun hlost => hnow hlost.1]
  cases op with
  | get key =>
    have hop : ∀ key', (StoreOp.get key).writes key' = false := fun _ => rfl
    obtain ⟨hreply, hkeeps, hcarries⟩ := hget key hop
    exact ⟨congrArg (Except.map StoreReply.value) hreply, hkeeps, hcarries⟩
  | has key =>
    have hop : ∀ key', (StoreOp.has key).writes key' = false := fun _ => rfl
    obtain ⟨hreply, hkeeps, hcarries⟩ := hget key hop
    exact ⟨congrArg (fun r => (r.map Option.isSome).map StoreReply.found) hreply, hkeeps, hcarries⟩
  | set key value ttl =>
    obtain ⟨hreply, hkeeps, hcarries⟩ := set_obeys h hnow key value ttl hc
    exact ⟨congrArg (Except.map fun _ => StoreReply.done) hreply, hkeeps, hcarries⟩
  | remove key =>
    obtain ⟨hreply, hkeeps, hcarries⟩ := remove_obeys h hnow key hc
    exact ⟨congrArg (Except.map fun _ => StoreReply.done) hreply, hkeeps, hcarries⟩

/-- Calls at times that never go back. -/
theorem replies_eq (h : Keeps past now s machine) (ops : List (Instant × StoreOp))
    (hc : ∀ u ∈ ops, s.Carries u.2) (hstart : ∀ u ∈ ops, ¬ u.1 < now)
    (horder : ops.Pairwise fun u v => ¬ v.1 < u.1) :
    replies (s, machine) ops = (promisedReplies past ops).map .ok := by
  induction ops generalizing past now s machine with
  | nil => rfl
  | cons u ops ih =>
    obtain ⟨time, op⟩ := u
    have hkeeps : Keeps past time s machine := h.later (hstart _ List.mem_cons_self)
    obtain ⟨hreply, hnext, hcarries⟩ := perform_obeys hkeeps op (hc _ List.mem_cons_self)
    obtain ⟨hafter, hrest⟩ := List.pairwise_cons.mp horder
    have htail := ih hnext (fun u hu => hcarries _ (hc u (List.mem_cons_of_mem _ hu))) hafter hrest
    have hfirst : replies (s, machine) ((time, op) :: ops) =
        (op.perform (calls time) (s, machine)).1 ::
          replies (op.perform (calls time) (s, machine)).2 ops := rfl
    rw [hfirst, hreply, htail]
    rfl

end AnyStore

theorem not_lt_least (t : Instant) : ¬ t < .least := by
  have hlower := t.lower
  rw [Instant.lt_iff]
  show ¬ (t.second < -8334601228800 ∨ t.second = -8334601228800 ∧ t.nano < 0)
  omega

theorem promisedReplies_append (past : StoreHistory) (before : List (Instant × StoreOp))
    (now : Instant) (op : StoreOp) (after : List (Instant × StoreOp)) :
    (promisedReplies past (before ++ (now, op) :: after))[before.length]? =
      some (promisedReply (before.reverse ++ past) now op) := by
  induction before generalizing past with
  | nil => rfl
  | cons u before ih =>
    obtain ⟨time, first⟩ := u
    rw [List.cons_append, promisedReplies, List.length_cons, List.getElem?_cons_succ, ih,
      List.reverse_cons, List.append_assoc]
    rfl

/-- A store of any kind that starts empty replies as promised to calls at times that never go back.
A key reads as a value when the latest write of the key wrote this value, and its time to live has
not passed. -/
theorem stores_keep_promises (s : AnyStore) (machine : Machine) (fresh : s.IsFresh machine)
    (ops : List (Instant × StoreOp)) (carried : ∀ u ∈ ops, s.Carries u.2)
    (ordered : ops.Pairwise fun u v => ¬ v.1 < u.1) :
    AnyStore.replies (s, machine) ops = (promisedReplies [] ops).map .ok ∧
      ∀ before now key after v, ops = before ++ (now, .get key) :: after →
        ((AnyStore.replies (s, machine) ops)[before.length]? = some (.ok (.value (some v))) ↔
          ∃ earlier start ttl later, before = earlier ++ (start, .set key v ttl) :: later ∧
            (∀ u ∈ later, u.2.writes key = false) ∧ now < start.plus ttl) := by
  have hreplies := AnyStore.replies_eq (fresh.keeps .least) ops carried (fun u _ => not_lt_least u.1)
    ordered
  refine ⟨hreplies, ?_⟩
  rintro before now key after v rfl
  rw [hreplies, List.getElem?_map, promisedReplies_append, List.append_nil, Option.map_some,
    Option.some_inj, Except.ok.injEq, promisedReply, StoreReply.value.injEq, promised_eq_some_iff]
  constructor
  · rintro ⟨later, start, ttl, earlier, hpast, hlater, hlive⟩
    refine ⟨earlier.reverse, start, ttl, later.reverse, ?_, ?_, hlive⟩
    · rw [← List.reverse_reverse before, hpast]
      simp
    · intro u hu
      exact hlater u (List.mem_reverse.mp hu)
  · rintro ⟨earlier, start, ttl, later, rfl, hlater, hlive⟩
    refine ⟨later.reverse, start, ttl, earlier.reverse, by simp, ?_, hlive⟩
    intro u hu
    exact hlater u (List.mem_reverse.mp hu)

/-- The theorem at a jar of cookies, of which one is set, read and removed. -/
theorem stores_keep_promises_of_cookies :
    let s : AnyStore := .request {}
    let machine : Machine := ⟨Disk.blank [], {}⟩
    let ops : List (Instant × StoreOp) := [(.least, .set "a" ⟨"x"⟩ defaultTtl), (.least, .get "a"),
      (.least, .remove "a"), (.least, .has "a")]
    s.IsFresh machine ∧ (∀ u ∈ ops, s.Carries u.2) ∧ ops.Pairwise (fun u v => ¬ v.1 < u.1) ∧
      promisedReplies [] ops = [.done, .value (some ⟨"x"⟩), .done, .found false] ∧
      AnyStore.replies (s, machine) ops = (promisedReplies [] ops).map .ok := by
  intro s machine ops
  have fresh : s.IsFresh machine := .request machine rfl
  have carried : ∀ u ∈ ops, s.Carries u.2 := by
    simp [ops, s, AnyStore.Carries, StoreOp.IsCookie]
    decide
  have ordered : ops.Pairwise fun u v => ¬ v.1 < u.1 := by decide
  exact ⟨fresh, carried, ordered, by decide,
    (stores_keep_promises s machine fresh ops carried ordered).1⟩

end BearerSession
