import BearerSession.Proofs.InstantOrder
import BearerSession.Store.Basic

namespace BearerSession

/-- A call of a store. -/
inductive StoreOp
  | get (key : String)
  | has (key : String)
  | set (key : String) (value : Secret) (ttl : Span)
  | remove (key : String)

/-- What a call of a store answers where it does not fail. -/
inductive StoreReply
  | value (v : Option Secret)
  | found (b : Bool)
  | done
  deriving DecidableEq

/-- Makes a call of a store. -/
def StoreOp.perform {m : Type → Type} [Monad m] (op : StoreOp) (store : Store m) :
    m (Except StoreError StoreReply) :=
  match op with
  | .get key => do return (← store.get key).map .value
  | .has key => do return (← store.exists? key).map .found
  | .set key value ttl => do return (← store.set key value ttl).map fun _ => .done
  | .remove key => do return (← store.remove key).map fun _ => .done

/-- Whether a call decides what a key holds. -/
def StoreOp.writes (key : String) : StoreOp → Bool
  | .set key' _ _ => key' = key
  | .remove key' => key' = key
  | _ => false

/-- Calls of a store with their times, the latest first. -/
abbrev StoreHistory := List (Instant × StoreOp)

/-- The entry of the latest write of a key. -/
def lastWrite (key : String) : StoreHistory → Option StoredEntry
  | [] => none
  | (now, op) :: past =>
    if op.writes key then
      match op with
      | .set _ value ttl => some (.stamp value now ttl)
      | _ => none
    else lastWrite key past

/-- The value that is promised for a key. -/
def promised (past : StoreHistory) (now : Instant) (key : String) : Option Secret :=
  liveValue now (lastWrite key past)

/-- The reply that is promised to a call. -/
def promisedReply (past : StoreHistory) (now : Instant) : StoreOp → StoreReply
  | .get key => .value (promised past now key)
  | .has key => .found (promised past now key).isSome
  | _ => .done

/-- The replies that are promised to calls in their order. -/
def promisedReplies (past : StoreHistory) : List (Instant × StoreOp) → List StoreReply
  | [] => []
  | (now, op) :: ops => promisedReply past now op :: promisedReplies ((now, op) :: past) ops

theorem liveValue_eq_some_iff {now : Instant} {entry : Option StoredEntry} {v : Secret} :
    liveValue now entry = some v ↔ ∃ t, entry = some ⟨v, t⟩ ∧ now < t := by
  cases entry with
  | none => simp [liveValue]
  | some e =>
    obtain ⟨value, t⟩ := e
    simp only [liveValue, StoredEntry.isLive, Option.map_eq_some_iff, Option.filter_eq_some_iff,
      decide_eq_true_eq]
    constructor
    · rintro ⟨e, ⟨he, hlive⟩, rfl⟩
      exact ⟨e.expiresAt, he, hlive⟩
    · rintro ⟨t', he, hlive⟩
      exact ⟨⟨v, t'⟩, ⟨he, hlive⟩, rfl⟩

theorem lastWrite_other {key : String} {op : StoreOp} (h : op.writes key = false) (now : Instant)
    (past : StoreHistory) : lastWrite key ((now, op) :: past) = lastWrite key past := by
  simp [lastWrite, h]

theorem lastWrite_set (key : String) (value : Secret) (ttl : Span) (now : Instant)
    (past : StoreHistory) :
    lastWrite key ((now, .set key value ttl) :: past) = some (.stamp value now ttl) := by
  simp [lastWrite, StoreOp.writes]

theorem lastWrite_append {key : String} {later : StoreHistory}
    (h : ∀ u ∈ later, u.2.writes key = false) (past : StoreHistory) :
    lastWrite key (later ++ past) = lastWrite key past := by
  induction later with
  | nil => rfl
  | cons u later ih =>
    obtain ⟨now, op⟩ := u
    rw [List.cons_append, lastWrite_other (h _ List.mem_cons_self)]
    exact ih fun u hu => h u (List.mem_cons_of_mem _ hu)

theorem lastWrite_eq_some_iff {key : String} {past : StoreHistory} {e : StoredEntry} :
    lastWrite key past = some e ↔ ∃ later now value ttl earlier,
      past = later ++ (now, .set key value ttl) :: earlier ∧ (∀ u ∈ later, u.2.writes key = false) ∧
        e = .stamp value now ttl := by
  constructor
  · intro h
    induction past with
    | nil => cases h
    | cons u past ih =>
      obtain ⟨now, op⟩ := u
      cases hw : op.writes key with
      | false =>
        rw [lastWrite_other hw] at h
        obtain ⟨later, start, value, ttl, earlier, rfl, hlater, he⟩ := ih h
        refine ⟨(now, op) :: later, start, value, ttl, earlier, rfl, ?_, he⟩
        intro u hu
        rcases List.mem_cons.mp hu with rfl | hu
        · exact hw
        · exact hlater u hu
      | true =>
        cases op with
        | set key' value ttl =>
          cases of_decide_eq_true hw
          rw [lastWrite_set] at h
          exact ⟨[], now, value, ttl, past, rfl, fun u hu => (nomatch hu), (Option.some.inj h).symm⟩
        | remove key' => simp [lastWrite, hw] at h
        | get key' => cases hw
        | has key' => cases hw
  · rintro ⟨later, now, value, ttl, earlier, rfl, hlater, rfl⟩
    rw [lastWrite_append hlater, lastWrite_set]

/-- A value is promised when the latest write of the key wrote it and it lives. -/
theorem promised_eq_some_iff {past : StoreHistory} {now : Instant} {key : String} {v : Secret} :
    promised past now key = some v ↔ ∃ later start ttl earlier,
      past = later ++ (start, .set key v ttl) :: earlier ∧ (∀ u ∈ later, u.2.writes key = false) ∧
        now < start.plus ttl := by
  unfold promised
  rw [liveValue_eq_some_iff]
  constructor
  · rintro ⟨t, he, hlive⟩
    obtain ⟨later, start, value, ttl, earlier, hpast, hlater, hentry⟩ := lastWrite_eq_some_iff.mp he
    cases hentry
    exact ⟨later, start, ttl, earlier, hpast, hlater, hlive⟩
  · rintro ⟨later, start, ttl, earlier, hpast, hlater, hlive⟩
    exact ⟨_, lastWrite_eq_some_iff.mpr ⟨later, start, v, ttl, earlier, hpast, hlater, rfl⟩, hlive⟩

/-- A view shows what another one does, except that it may have lost values as of before a mark. -/
def ShowsFrom (mark : Instant) (look' look : Instant → String → Option Secret) : Prop :=
  ∀ t key, look' t key = look t key ∨ t < mark ∧ look' t key = none

/-- A view of a store that keeps all promises, from some time on. -/
def KeepsPromises (past : StoreHistory) (mark : Instant)
    (look : Instant → String → Option Secret) : Prop := ShowsFrom mark look (promised past)

section Views

variable {past : StoreHistory} {now mark mark' : Instant} {key : String}
  {look look' look'' : Instant → String → Option Secret}

theorem promised_set (key key' : String) (value : Secret) (ttl : Span) (t : Instant) :
    promised ((now, .set key value ttl) :: past) t key' =
      if key' = key then liveValue t (some (.stamp value now ttl)) else promised past t key' := by
  by_cases hk : key' = key
  · subst hk
    rw [if_pos rfl, promised, lastWrite_set]
  · rw [if_neg hk, promised, lastWrite_other (by simp [StoreOp.writes, Ne.symm hk])]
    rfl

theorem promised_remove (key key' : String) (t : Instant) :
    promised ((now, .remove key) :: past) t key' =
      if key' = key then none else promised past t key' := by
  by_cases hk : key' = key
  · subst hk
    simp [promised, lastWrite, StoreOp.writes, liveValue]
  · rw [if_neg hk, promised, lastWrite_other (by simp [StoreOp.writes, Ne.symm hk])]
    rfl

/-- The dead stay dead. -/
theorem liveValue_of_dead {e : StoredEntry} {t : Instant} (h : e.isLive now = false)
    (ht : ¬ t < now) : liveValue t (some e) = none := by
  have hdead : ¬ t < e.expiresAt := by
    intro hlt
    have hnow := Instant.lt_of_not_lt_of_lt ht hlt
    simp [StoredEntry.isLive, hnow] at h
  simp [liveValue, StoredEntry.isLive, hdead]

theorem ShowsFrom.of_eq (h : ∀ t key, look' t key = look t key) : ShowsFrom mark look' look :=
  fun t key => .inl (h t key)

theorem ShowsFrom.later (h : ShowsFrom mark look' look) (hmark : ¬ mark' < mark) :
    ShowsFrom mark' look' look :=
  fun t key => (h t key).imp_right fun ⟨ht, hlost⟩ => ⟨Instant.lt_of_lt_of_not_lt ht hmark, hlost⟩

theorem ShowsFrom.trans (h : ShowsFrom mark look'' look') (h' : ShowsFrom mark look' look) :
    ShowsFrom mark look'' look := by
  intro t key
  rcases h t key with heq | hlost
  · rw [heq]
    exact h' t key
  · exact .inr hlost

theorem ShowsFrom.update (h : ShowsFrom mark look' look) (key : String)
    (found : Instant → Option Secret) :
    ShowsFrom mark (fun t key' => if key' = key then found t else look' t key')
      (fun t key' => if key' = key then found t else look t key') := by
  intro t key'
  dsimp only
  split
  next => exact .inl rfl
  next => exact h t key'

/-- A call that writes nothing changes no promise. -/
theorem KeepsPromises.read (h : KeepsPromises past mark look) {op : StoreOp}
    (hop : ∀ key, op.writes key = false) : KeepsPromises ((now, op) :: past) mark look := by
  have hsame : promised ((now, op) :: past) = promised past := by
    funext t key
    rw [promised, promised, lastWrite_other (hop key)]
  unfold KeepsPromises
  rw [hsame]
  exact h

theorem KeepsPromises.set (h : KeepsPromises past mark look) {value : Secret} {ttl : Span}
    (hlook : ShowsFrom mark look' fun t key' =>
      if key' = key then liveValue t (some (.stamp value now ttl)) else look t key') :
    KeepsPromises ((now, .set key value ttl) :: past) mark look' := by
  have hsame : promised ((now, .set key value ttl) :: past) = fun t key' =>
      if key' = key then liveValue t (some (.stamp value now ttl)) else promised past t key' :=
    funext fun t => funext fun key' => promised_set key key' value ttl t
  unfold KeepsPromises
  rw [hsame]
  exact hlook.trans (h.update key fun t => liveValue t (some (.stamp value now ttl)))

theorem KeepsPromises.remove (h : KeepsPromises past mark look)
    (hlook : ShowsFrom mark look' fun t key' => if key' = key then none else look t key') :
    KeepsPromises ((now, .remove key) :: past) mark look' := by
  have hsame : promised ((now, .remove key) :: past) = fun t key' =>
      if key' = key then none else promised past t key' :=
    funext fun t => funext fun key' => promised_remove key key' t
  unfold KeepsPromises
  rw [hsame]
  exact hlook.trans (h.update key fun _ => none)

end Views

end BearerSession
