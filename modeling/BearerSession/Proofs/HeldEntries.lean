import BearerSession.Proofs.StoreAgreement

namespace BearerSession.AnyStore

/-- Whether a store on its machine has an entry at a key. -/
inductive Has (key : String) (entry : StoredEntry) : AnyStore → Machine → Prop
  | memory {s : MemoryStore} {machine : Machine} : s.entries.get? key = some entry →
      Has key entry (.memory s) machine
  | file {jar : FileJar} {machine : Machine} : jar.data.entries.get? key = some entry →
      Has key entry (.file jar) machine
  | request {jar : RequestJar} {machine : Machine} :
      jar.cookies.get? key = some ⟨entry.value, some entry.expiresAt⟩ →
      Has key entry (.request jar) machine
  | keyring {k : Keyring} {machine : Machine} :
      machine.vault.items.get? (k.service key) = some (.text entry.encode.text) →
      entry.expiresAt.nano < 1000000000 → Has key entry (.keyring k) machine

variable {s s' : AnyStore} {machine machine' : Machine} {now t : Instant} {key key' : String}
  {value : Secret} {ttl : Span} {entry : StoredEntry}

theorem permit_of_reliable {vault : Vault} (h : vault.faults = []) (call : VaultCall)
    (service : String) : vault.permit call service = .ok () := by
  unfold Vault.permit
  rw [h]
  rfl

theorem liveValue_of_lt (h : t < entry.expiresAt) : liveValue t (some entry) = some entry.value := by
  simp [liveValue, StoredEntry.isLive, Option.filter, h]

/-- What a store has is found as long as it lives, and finding it changes nothing. -/
theorem Has.get (h : s.Has key entry machine) (reliable : machine.vault.faults = [])
    (live : t < entry.expiresAt) :
    (calls t).get key (s, machine) = (.ok (some entry.value), s, machine) := by
  cases h with
  | @memory s machine h =>
    have hget : s.get t key = some entry.value := by
      rw [MemoryStore.get, h, liveValue_of_lt live]
    simp only [calls, AnyStore.get, hget]
  | @file jar machine h =>
    have hget : jar.get t key = some entry.value := by
      rw [FileJar.get, h, liveValue_of_lt live]
    simp only [calls, AnyStore.get, hget]
  | @request jar machine h =>
    have hget : jar.get t key = some entry.value := by
      simp [RequestJar.get, h, Option.filter, Cookie.isLive, live]
    simp only [calls, AnyStore.get, hget]
  | @keyring k machine h hnano =>
    have hitem : k.readItem key machine.vault = .ok (some entry.encode.text) := by
      unfold Keyring.readItem Keyring.entry Vault.get
      rw [permit_of_reliable reliable]
      simp only [bind, Except.bind]
      rw [permit_of_reliable reliable, h]
      rfl
    have hget : k.get t key machine.vault = (.ok (some entry.value), machine.vault, []) := by
      have hlive : entry.isLive t = true := decide_eq_true live
      unfold Keyring.get
      rw [hitem]
      dsimp only
      rw [readEntry_encode entry hnano]
      dsimp only
      rw [if_pos hlive]
    simp only [calls, AnyStore.get, hget]

/-- A write of an item that succeeds was permitted twice. -/
theorem of_keyring_set {k : Keyring} {vault vault' : Vault}
    (h : k.set now key value ttl vault = .ok vault') :
    vault'.faults = vault.faults ∧
      vault'.items = vault.items.insert (k.service key)
        (.text (StoredEntry.stamp value now ttl).encode.text) := by
  simp only [Keyring.set, Keyring.entry, Vault.set, bind, Except.bind] at h
  cases hnew : vault.permit .new (k.service key) with
  | error e =>
    rw [hnew] at h
    cases h
  | ok =>
    cases hset : vault.permit .set (k.service key) with
    | error e =>
      rw [hnew] at h
      dsimp only at h
      rw [hset] at h
      cases h
    | ok =>
      rw [hnew] at h
      dsimp only at h
      rw [hset] at h
      cases h
      exact ⟨rfl, rfl⟩

section Writes

variable (h : (calls now).set key value ttl (s, machine) = (.ok (), s', machine'))

include h

/-- What a write that succeeds makes of the parts of a store and its machine. -/
theorem set_cases :
    (∃ m, s = .memory m ∧ s' = .memory (m.set now key value ttl) ∧ machine' = machine) ∨
    (∃ jar jar', s = .file jar ∧ s' = .file jar' ∧ machine'.vault = machine.vault ∧
      jar'.data.entries =
        (jar.data.entries.insert key (.stamp value now ttl)).filter fun e => e.2.isLive now) ∨
    (∃ jar jar', s = .request jar ∧ s' = .request jar' ∧ machine' = machine ∧
      jar'.cookies = jar.cookies.insert key ⟨value, some (now.plus ttl)⟩) ∨
    ∃ k vault, s = .keyring k ∧ s' = .keyring k ∧ machine' = { machine with vault } ∧
      vault.faults = machine.vault.faults ∧
      vault.items = machine.vault.items.insert (k.service key)
        (.text (StoredEntry.stamp value now ttl).encode.text) := by
  cases s with
  | memory m =>
    cases h
    exact .inl ⟨m, rfl, rfl, rfl⟩
  | file jar =>
    have hentries : (jar.set now key value ttl machine.disk).2.1.data.entries =
        (jar.data.entries.insert key (.stamp value now ttl)).filter fun e => e.2.isLive now := by
      unfold FileJar.set FileJar.save
      dsimp only
      split <;> rfl
    cases hset : jar.set now key value ttl machine.disk with
    | mk result rest =>
      simp only [calls, AnyStore.set, hset] at h
      rw [hset] at hentries
      cases h
      exact .inr (.inl ⟨jar, _, rfl, rfl, rfl, hentries⟩)
  | request jar =>
    refine .inr (.inr (.inl ⟨jar, ?_⟩))
    simp only [calls, AnyStore.set, RequestJar.set] at h
    by_cases hc : (isToken key && value.expose.toList.all RequestJar.isOctet) = true
    · rw [if_pos hc] at h
      cases h
      exact ⟨_, rfl, rfl, rfl, rfl⟩
    · rw [if_neg hc] at h
      cases h
  | keyring k =>
    refine .inr (.inr (.inr ⟨k, ?_⟩))
    simp only [calls, AnyStore.set] at h
    cases hset : k.set now key value ttl machine.vault with
    | error e =>
      rw [hset] at h
      cases h
    | ok vault =>
      rw [hset] at h
      cases h
      exact ⟨vault, rfl, rfl, rfl, of_keyring_set hset⟩

theorem faults_set : machine'.vault.faults = machine.vault.faults := by
  rcases set_cases h with ⟨m, -, -, rfl⟩ | ⟨jar, jar', -, -, hvault, -⟩ | ⟨jar, jar', -, -, rfl, -⟩ |
    ⟨k, vault, -, -, rfl, hfaults, -⟩
  · rfl
  · rw [hvault]
  · rfl
  · exact hfaults

/-- A write that succeeds leaves its entry, unless this is dead from the start. -/
theorem Has.of_set (live : now < now.plus ttl) : s'.Has key (.stamp value now ttl) machine' := by
  rcases set_cases h with ⟨m, rfl, rfl, rfl⟩ | ⟨jar, jar', rfl, rfl, -, hentries⟩ |
    ⟨jar, jar', rfl, rfl, -, hcookies⟩ | ⟨k, vault, rfl, rfl, rfl, -, hitems⟩
  · refine .memory ?_
    unfold MemoryStore.set
    rw [SortedMap.get?_insert, if_pos rfl]
  · refine .file ?_
    have hlive : (StoredEntry.stamp value now ttl).isLive now = true := decide_eq_true live
    rw [hentries, SortedMap.get?_filter, SortedMap.get?_insert, if_pos rfl]
    exact if_pos hlive
  · refine .request ?_
    rw [hcookies, SortedMap.get?_insert, if_pos rfl]
    rfl
  · refine .keyring ?_ (Instant.plus_nano_lt now ttl)
    rw [hitems, SortedMap.get?_insert, if_pos rfl]

/-- A write of another key leaves an entry that lives. -/
theorem Has.set_other (held : s.Has key' entry machine) (other : key' ≠ key)
    (live : now < entry.expiresAt) : s'.Has key' entry machine' := by
  rcases set_cases h with ⟨m, rfl, rfl, rfl⟩ | ⟨jar, jar', rfl, rfl, -, hentries⟩ |
    ⟨jar, jar', rfl, rfl, -, hcookies⟩ | ⟨k, vault, rfl, rfl, rfl, -, hitems⟩
  · cases held with
    | memory held =>
      refine .memory ?_
      unfold MemoryStore.set
      rw [SortedMap.get?_insert, if_neg other, held]
  · cases held with
    | file held =>
      refine .file ?_
      have hlive : entry.isLive now = true := decide_eq_true live
      rw [hentries, SortedMap.get?_filter, SortedMap.get?_insert, if_neg other, held]
      exact if_pos hlive
  · cases held with
    | request held =>
      refine .request ?_
      rw [hcookies, SortedMap.get?_insert, if_neg other, held]
  · cases held with
    | keyring held hnano =>
      refine .keyring ?_ hnano
      rw [hitems, SortedMap.get?_insert, if_neg fun hs => other (Keyring.service_inj hs), held]

end Writes

/-- Two writes in a row, each of which is looked for while it lives. Of one key the later counts. -/
theorem get_of_set_set {s₀ s₁ s₂ : AnyStore} {machine₀ machine₁ machine₂ : Machine}
    {t₀ t₁ : Instant} {value' : Secret} (permitted : machine₀.vault.faults = [])
    (first : (calls t₀).set key value ttl (s₀, machine₀) = (.ok (), s₁, machine₁))
    (second : (calls t₁).set key' value' ttl (s₁, machine₁) = (.ok (), s₂, machine₂))
    (live₀ : t₀ < t₀.plus ttl) (live₁ : t₁ < t₁.plus ttl) (kept : t₁ < t₀.plus ttl)
    (found₀ : t < t₀.plus ttl) (found₁ : t < t₁.plus ttl) :
    (calls t).get key (s₂, machine₂) =
        (.ok (some (if key = key' then value' else value)), s₂, machine₂) ∧
      (calls t).get key' (s₂, machine₂) = (.ok (some value'), s₂, machine₂) := by
  have hpermitted : machine₂.vault.faults = [] :=
    (faults_set second).trans ((faults_set first).trans permitted)
  have hsecond : s₂.Has key' (.stamp value' t₁ ttl) machine₂ := .of_set second live₁
  have hread := hsecond.get hpermitted found₁
  refine ⟨?_, hread⟩
  by_cases hsame : key = key'
  · rw [if_pos hsame, hsame]
    exact hread
  · have hfirst : s₁.Has key (.stamp value t₀ ttl) machine₁ := .of_set first live₀
    rw [if_neg hsame]
    exact (hfirst.set_other second hsame kept).get hpermitted found₀

end BearerSession.AnyStore
