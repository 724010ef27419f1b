import BearerSession.Proofs.DiskReplace
import BearerSession.Proofs.EntryText
import BearerSession.Proofs.ExpiringMap
import BearerSession.Store.Selection

namespace BearerSession

section Backends

variable {past : StoreHistory} {now t : Instant} {key key' : String} {value : Secret} {ttl : Span}

theorem MemoryStore.get_set (s : MemoryStore) :
    (s.set now key value ttl).get t key' =
      if key' = key then liveValue t (some (.stamp value now ttl)) else s.get t key' := by
  unfold MemoryStore.get MemoryStore.set
  rw [SortedMap.get?_insert]
  split <;> rfl

theorem MemoryStore.get_remove (s : MemoryStore) :
    (s.remove key).get t key' = if key' = key then none else s.get t key' := by
  unfold MemoryStore.get MemoryStore.remove
  rw [SortedMap.get?_erase]
  split <;> rfl

/-- An entry that is dropped because it has died is not missed later. -/
theorem liveValue_filter (now t : Instant) (e : Option StoredEntry) :
    liveValue t (e.filter fun e => e.isLive now) = liveValue t e ∨
      t < now ∧ liveValue t (e.filter fun e => e.isLive now) = none := by
  cases e with
  | none => exact .inl rfl
  | some e =>
    cases hl : e.isLive now with
    | true => exact .inl (by simp [Option.filter, hl])
    | false =>
      have hdropped : (some e).filter (fun e => e.isLive now) = none := by simp [Option.filter, hl]
      rw [hdropped]
      by_cases ht : t < now
      · exact .inr ⟨ht, rfl⟩
      · exact .inl (liveValue_of_dead hl ht).symm

theorem FileJar.save_spec (jar : FileJar) (now : Instant) {disk : Disk}
    (hw : disk.IsWritable jar.path FileJar.mode) :
    ∃ disk', jar.save now disk = (.ok (), { jar with data := jar.data.prune now }, disk') ∧
      disk'.IsWritable jar.path FileJar.mode := by
  obtain ⟨disk', hreplace, hw'⟩ := hw.replaceFile (jar.data.prune now).encode.pretty
  refine ⟨disk', ?_, hw'⟩
  unfold FileJar.save
  dsimp only
  rw [hreplace]

theorem FileJar.get_prune (jar : FileJar) (now : Instant) :
    ShowsFrom now (FileJar.get { jar with data := jar.data.prune now }) jar.get := by
  intro t key
  unfold FileJar.get JarData.prune
  dsimp only
  rw [SortedMap.get?_filter]
  exact liveValue_filter now t _

theorem FileJar.set_spec (jar : FileJar) {disk : Disk} (hw : disk.IsWritable jar.path FileJar.mode)
    (now : Instant) (key : String) (value : Secret) (ttl : Span) :
    ∃ jar' disk', jar.set now key value ttl disk = (.ok (), jar', disk') ∧
      disk'.IsWritable jar'.path FileJar.mode ∧
      ShowsFrom now jar'.get fun t key' =>
        if key' = key then liveValue t (some (.stamp value now ttl)) else jar.get t key' := by
  obtain ⟨disk', hsave, hw'⟩ := FileJar.save_spec
    { jar with data := { jar.data with entries := jar.data.entries.insert key (.stamp value now ttl) } }
    now hw
  refine ⟨_, disk', hsave, hw', (FileJar.get_prune _ now).trans (.of_eq fun t key' => ?_)⟩
  unfold FileJar.get
  rw [SortedMap.get?_insert]
  split <;> rfl

theorem FileJar.remove_spec (jar : FileJar) {disk : Disk}
    (hw : disk.IsWritable jar.path FileJar.mode) (now : Instant) (key : String) :
    ∃ jar' disk', jar.remove now key disk = (.ok (), jar', disk') ∧
      disk'.IsWritable jar'.path FileJar.mode ∧
      ShowsFrom now jar'.get fun t key' => if key' = key then none else jar.get t key' := by
  unfold FileJar.remove
  split
  next hnone =>
    refine ⟨jar, disk, rfl, hw, .of_eq fun t key' => ?_⟩
    split
    next hk => rw [hk, FileJar.get, hnone]; rfl
    next => rfl
  next =>
    obtain ⟨disk', hsave, hw'⟩ := FileJar.save_spec
      { jar with data := { jar.data with entries := jar.data.entries.erase key } } now hw
    refine ⟨_, disk', hsave, hw', (FileJar.get_prune _ now).trans (.of_eq fun t key' => ?_)⟩
    unfold FileJar.get
    rw [SortedMap.get?_erase]
    split <;> rfl

/-- The calls that a jar of cookies can carry. -/
def StoreOp.IsCookie : StoreOp → Prop
  | .get key => isToken key = true
  | .has key => isToken key = true
  | .set key value _ => isToken key = true ∧ value.expose.toList.all RequestJar.isOctet = true
  | .remove key => isToken key = true

theorem RequestJar.set_spec (jar : RequestJar) (now : Instant) (ttl : Span)
    (hc : (StoreOp.set key value ttl).IsCookie) :
    ∃ jar', jar.set now key value ttl = .ok jar' ∧ ∀ t key', jar'.get t key' =
      if key' = key then liveValue t (some (.stamp value now ttl)) else jar.get t key' := by
  obtain ⟨hkey, hvalue⟩ := hc
  refine ⟨_, if_pos (by rw [hkey, hvalue]; rfl), fun t key' => ?_⟩
  unfold RequestJar.get
  rw [SortedMap.get?_insert]
  split
  next =>
    simp only [liveValue, Option.filter, Cookie.isLive, StoredEntry.isLive, StoredEntry.stamp]
    by_cases hlive : t < now.plus ttl <;> simp [hlive]
  next => rfl

theorem RequestJar.remove_spec (jar : RequestJar) (hc : (StoreOp.remove key).IsCookie) :
    ∃ jar', jar.remove key = .ok jar' ∧ ∀ t key', jar'.get t key' =
      if key' = key then none else jar.get t key' := by
  refine ⟨_, if_pos hc, fun t key' => ?_⟩
  unfold RequestJar.get
  rw [SortedMap.get?_erase]
  split <;> rfl

/-- What a vault holds for a store: an item for every key that has an entry. -/
structure Keyring.Holds (k : Keyring) (vault : Vault) (entries : String → Option StoredEntry) :
    Prop where
  reliable : vault.faults = []
  items : ∀ key, vault.items.get? (k.service key) = (entries key).map fun e => .text e.encode.text
  sound : ∀ key e, entries key = some e → e.expiresAt.nano < 1000000000

variable {k : Keyring} {vault : Vault} {entries : String → Option StoredEntry}

theorem Keyring.service_inj (h : k.service key = k.service key') : key = key' := by
  have hl := congrArg String.toList h
  unfold Keyring.service at hl
  simpa [String.toList_append, String.toList_inj] using hl

theorem Keyring.Holds.permit (h : k.Holds vault entries) (call : VaultCall) (service : String) :
    vault.permit call service = .ok () := by
  unfold Vault.permit
  rw [h.reliable]
  rfl

theorem Keyring.Holds.insert (h : k.Holds vault entries) (key : String) {e : StoredEntry}
    (he : e.expiresAt.nano < 1000000000) :
    k.Holds { vault with items := vault.items.insert (k.service key) (.text e.encode.text) }
      fun key' => if key' = key then some e else entries key' := by
  refine ⟨h.reliable, fun key' => ?_, fun key' e' he' => ?_⟩
  · rw [SortedMap.get?_insert]
    by_cases hk : key' = key
    · rw [if_pos (by rw [hk]), if_pos hk]
      rfl
    · rw [if_neg fun heq => hk (Keyring.service_inj heq), if_neg hk]
      exact h.items key'
  · split at he'
    · cases he'
      exact he
    · exact h.sound key' e' he'

theorem Keyring.Holds.erase (h : k.Holds vault entries) (key : String) :
    k.Holds { vault with items := vault.items.erase (k.service key) }
      fun key' => if key' = key then none else entries key' := by
  refine ⟨h.reliable, fun key' => ?_, fun key' e' he' => ?_⟩
  · rw [SortedMap.get?_erase]
    by_cases hk : key' = key
    · rw [if_pos (by rw [hk]), if_pos hk]
      rfl
    · rw [if_neg fun heq => hk (Keyring.service_inj heq), if_neg hk]
      exact h.items key'
  · split at he'
    · cases he'
    · exact h.sound key' e' he'

theorem Keyring.Holds.deleteItem (h : k.Holds vault entries) (key failure : String) :
    ∃ vault', k.deleteItem key vault failure = .ok vault' ∧
      k.Holds vault' fun key' => if key' = key then none else entries key' := by
  have hitem := h.items key
  unfold Keyring.deleteItem Vault.delete
  rw [h.permit]
  simp only [bind, Except.bind]
  cases he : entries key with
  | none =>
    rw [he] at hitem
    rw [hitem]
    refine ⟨vault, rfl, h.reliable, fun key' => ?_, fun key' e' he' => ?_⟩
    · by_cases hk : key' = key
      · rw [if_pos hk, hk]
        exact hitem
      · rw [if_neg hk]
        exact h.items key'
    · split at he'
      · cases he'
      · exact h.sound key' e' he'
  | some e =>
    rw [he] at hitem
    rw [hitem]
    exact ⟨_, rfl, h.erase key⟩

theorem Keyring.set_spec (h : k.Holds vault entries) (now : Instant) (key : String) (value : Secret)
    (ttl : Span) :
    ∃ vault', k.set now key value ttl vault = .ok vault' ∧
      k.Holds vault' fun key' => if key' = key then some (.stamp value now ttl) else entries key' := by
  refine ⟨_, ?_, h.insert key (Instant.plus_nano_lt now ttl)⟩
  unfold Keyring.set Keyring.entry Vault.set
  rw [h.permit]
  simp only [bind, Except.bind]
  rw [h.permit]
  rfl

theorem Keyring.remove_spec (h : k.Holds vault entries) (key : String) :
    ∃ vault', k.remove key vault = .ok vault' ∧
      k.Holds vault' fun key' => if key' = key then none else entries key' := by
  obtain ⟨vault', hdelete, h'⟩ := h.deleteItem key "failed to delete keyring entry: "
  refine ⟨vault', ?_, h'⟩
  unfold Keyring.remove Keyring.entry
  rw [h.permit]
  exact hdelete

theorem Keyring.readItem_spec (h : k.Holds vault entries) (key : String) :
    k.readItem key vault = .ok ((entries key).map fun e => e.encode.text) := by
  unfold Keyring.readItem Keyring.entry Vault.get
  rw [h.permit]
  simp only [bind, Except.bind]
  rw [h.permit, h.items key]
  cases entries key <;> rfl

/-- A look at the vault may delete an entry, but only a dead one. -/
theorem Keyring.get_spec (h : k.Holds vault entries) (now : Instant) (key : String) :
    ∃ vault' lines entries',
      k.get now key vault = (.ok (liveValue now (entries key)), vault', lines) ∧
        k.Holds vault' entries' ∧
        ShowsFrom now (fun t key' => liveValue t (entries' key'))
          fun t key' => liveValue t (entries key') := by
  unfold Keyring.get
  rw [Keyring.readItem_spec h key]
  cases he : entries key with
  | none => exact ⟨vault, [], entries, rfl, h, .of_eq fun _ _ => rfl⟩
  | some e =>
    dsimp only [Option.map_some]
    rw [readEntry_encode e (h.sound key e he)]
    dsimp only
    cases hl : e.isLive now with
    | true =>
      refine ⟨vault, [], entries, ?_, h, .of_eq fun _ _ => rfl⟩
      simp [liveValue, Option.filter, hl]
    | false =>
      obtain ⟨vault', hdelete, h'⟩ := h.deleteItem key "failed to delete expired keyring entry: "
      have hnow : liveValue now (some e) = none := by simp [liveValue, Option.filter, hl]
      rw [hdelete, hnow]
      refine ⟨vault', _, _, rfl, h', fun t key' => ?_⟩
      dsimp only
      split
      next hk =>
        rw [hk, he]
        by_cases ht : t < now
        · exact .inr ⟨ht, rfl⟩
        · exact .inl (liveValue_of_dead hl ht).symm
      next => exact .inl rfl

end Backends

end BearerSession
