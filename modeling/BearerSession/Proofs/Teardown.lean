import BearerSession.Proofs.HeldEntries
import BearerSession.Proofs.StepRecord
import BearerSession.Proofs.WorldCalls

namespace BearerSession

namespace Session

section Course

variable {m : Type → Type} (s : Session m)

/-- How a logout may go. It tries both removals, whatever the first one answers. -/
inductive LogoutCourse : List CallStep → Except StoreError Unit → Prop
  | cleared : LogoutCourse
      [⟨.remove s.keys.access, .ok ()⟩, ⟨.remove s.keys.refresh, .ok ()⟩, ⟨.note .redirect, ()⟩]
      (.ok ())
  | accessKept {e : StoreError} {second : Except StoreError Unit} : LogoutCourse
      [⟨.remove s.keys.access, .error e⟩, ⟨.remove s.keys.refresh, second⟩] (.error e)
  | refreshKept {e : StoreError} : LogoutCourse
      [⟨.remove s.keys.access, .ok ()⟩, ⟨.remove s.keys.refresh, .error e⟩] (.error e)

variable {s} {steps : List CallStep} {result : Except StoreError Unit}

theorem LogoutCourse.calls (h : s.LogoutCourse steps result) :
    steps.map CallStep.call = [.remove s.keys.access, .remove s.keys.refresh] ++
      if result.isOk then [.note .redirect] else [] := by
  cases h <;> rfl

end Course

theorem records_logout {σ : Type} (s : Session (StateM σ)) (start : σ) : ∃ steps result after,
    Records s.logout s.noted.logout start steps result after ∧ s.LogoutCourse steps result := by
  obtain ⟨access, s₁, haccess⟩ := Records.step (s.store.remove s.keys.access)
    (CallStep.mk (.remove s.keys.access)) start
  obtain ⟨refresh, s₂, hrefresh⟩ := Records.step (s.store.remove s.keys.refresh)
    (CallStep.mk (.remove s.keys.refresh)) s₁
  unfold Session.logout BearerSession.logout
  cases access with
  | error e =>
    obtain ⟨s₃, hlog⟩ := Records.log s.log ⟨.warn, "Failed to clear credentials: " ++ e.message⟩ s₂
    exact ⟨_, _, s₃, haccess.bind (hrefresh.bind_silent (hlog.bind (.pure _ _))), .accessKept⟩
  | ok =>
    cases refresh with
    | error e =>
      obtain ⟨s₃, hlog⟩ :=
        Records.log s.log ⟨.warn, "Failed to clear credentials: " ++ e.message⟩ s₂
      exact ⟨_, _, s₃, haccess.bind (hrefresh.bind_silent (hlog.bind (.pure _ _))), .refreshKept⟩
    | ok =>
      obtain ⟨s₃, hlog⟩ := Records.log s.log ⟨.info, "Cleared stored credentials"⟩ s₂
      obtain ⟨⟨⟩, s₄, hredirect⟩ := Records.step s.redirect
        (fun _ => CallStep.mk (.note .redirect) ()) s₃
      exact ⟨_, _, s₄, haccess.bind (hrefresh.bind (hlog.bind (hredirect.bind_silent (.pure _ _)))),
        .cleared⟩

end Session

namespace Keyring

variable {vault : Vault}

/-- What an item of a vault reads as. -/
def found (t : Instant) : Option Content → Except StoreError (Option Secret)
  | none => .ok none
  | some content =>
    match content.text? with
    | none => .error (.backend ("keyring error: " ++ VaultError.badEncoding.text))
    | some s => (readEntry s).map fun e => liveValue t (some e)

theorem deleteItem_of_reliable (k : Keyring) (reliable : vault.faults = []) (key failure : String) :
    ∃ vault', k.deleteItem key vault failure = .ok vault' ∧ vault'.faults = [] ∧
      ∀ service, vault'.items.get? service =
        if service = k.service key then none else vault.items.get? service := by
  unfold deleteItem Vault.delete
  rw [AnyStore.permit_of_reliable reliable]
  simp only [bind, Except.bind]
  cases hitem : vault.items.get? (k.service key) with
  | none =>
    refine ⟨vault, rfl, reliable, fun service => ?_⟩
    by_cases hservice : service = k.service key
    · rw [if_pos hservice, hservice, hitem]
    · rw [if_neg hservice]
  | some content => exact ⟨_, rfl, reliable, fun service => SortedMap.get?_erase _ _ _⟩

theorem remove_of_reliable (k : Keyring) (reliable : vault.faults = []) (key : String) :
    ∃ vault', k.remove key vault = .ok vault' ∧ vault'.faults = [] ∧
      ∀ service, vault'.items.get? service =
        if service = k.service key then none else vault.items.get? service := by
  obtain ⟨vault', hdelete, hspec⟩ :=
    k.deleteItem_of_reliable reliable key "failed to delete keyring entry: "
  refine ⟨vault', ?_, hspec⟩
  unfold remove entry
  rw [AnyStore.permit_of_reliable reliable]
  exact hdelete

/-- In a vault that refuses nothing, what a key reads as depends on its item alone. -/
theorem get_eq_found (k : Keyring) (reliable : vault.faults = []) (t : Instant) (key : String) :
    (k.get t key vault).1 = found t (vault.items.get? (k.service key)) := by
  have hread : k.readItem key vault =
      match vault.items.get? (k.service key) with
      | none => .ok none
      | some content =>
        match content.text? with
        | none => .error (.backend ("keyring error: " ++ VaultError.badEncoding.text))
        | some s => .ok (some s) := by
    unfold readItem entry Vault.get
    rw [AnyStore.permit_of_reliable reliable]
    simp only [bind, Except.bind]
    rw [AnyStore.permit_of_reliable reliable]
    cases vault.items.get? (k.service key) with
    | none => rfl
    | some content =>
      dsimp only
      cases content.text? <;> rfl
  unfold Keyring.get found
  rw [hread]
  cases vault.items.get? (k.service key) with
  | none => rfl
  | some content =>
    dsimp only
    cases content.text? with
    | none => rfl
    | some s =>
      dsimp only
      cases readEntry s with
      | error e => rfl
      | ok e =>
        cases hlive : e.isLive t with
        | true => simp [hlive, Except.map, liveValue, Option.filter]
        | false =>
          obtain ⟨vault', hdelete, -⟩ := k.deleteItem_of_reliable reliable key
            "failed to delete expired keyring entry: "
          simp [hlive, hdelete, Except.map, liveValue, Option.filter]

end Keyring

namespace AnyStore

variable {s : AnyStore} {machine : Machine} {t now : Instant} {key : String} {keys : CredentialKeys}

/-- What a key reads as at some time, or why it cannot be read. -/
def reads (s : AnyStore) (machine : Machine) (t : Instant) (key : String) :
    Except StoreError (Option Secret) := (s.get t key machine).1

/-- Whether a store carries the removals of both credentials, whatever it holds. -/
inductive Removes (keys : CredentialKeys) : AnyStore → Machine → Prop
  | memory {s : MemoryStore} {machine : Machine} : Removes keys (.memory s) machine
  | file {jar : FileJar} {machine : Machine}
      (saves : machine.disk.IsWritable jar.path FileJar.mode) : Removes keys (.file jar) machine
  | request {jar : RequestJar} {machine : Machine} (access : isToken keys.access = true)
      (refresh : isToken keys.refresh = true) : Removes keys (.request jar) machine
  | keyring {k : Keyring} {machine : Machine} (reliable : machine.vault.faults = []) :
      Removes keys (.keyring k) machine

/-- Whether of what was read before only a key is missing now. What else is missing was read only at
times before a mark. -/
structure Loses (mark : Instant) (key : String)
    (look' look : Instant → String → Except StoreError (Option Secret)) : Prop where
  gone : ∀ t, look' t key = .ok none
  kept : ∀ t key', key' ≠ key → look' t key' = look t key' ∨ t < mark ∧ look' t key' = .ok none

theorem Loses.of_shows {look' look : Instant → String → Option Secret}
    (h : ShowsFrom now look' fun t key' => if key' = key then none else look t key') :
    Loses now key (fun t key' => .ok (look' t key')) fun t key' => .ok (look t key') := by
  refine ⟨fun t => ?_, fun t key' other => ?_⟩
  · have hgone := h t key
    simp only [if_true] at hgone
    exact congrArg _ (hgone.elim id And.right)
  · have hkept := h t key'
    simp only [other, if_false] at hkept
    exact hkept.imp (congrArg _) fun ⟨ht, hlost⟩ => ⟨ht, congrArg _ hlost⟩

/-- A removal of one of the credentials succeeds, and leaves a store that carries such removals. -/
theorem Removes.remove (h : s.Removes keys machine) (now : Instant)
    (hkey : key = keys.access ∨ key = keys.refresh) :
    ∃ s' machine', s.remove now key machine = (.ok (), s', machine') ∧ s'.Removes keys machine' ∧
      Loses now key (s'.reads machine') (s.reads machine) := by
  cases h with
  | @memory m =>
    exact ⟨_, _, rfl, .memory, .of_shows (.of_eq fun t key' => m.get_remove)⟩
  | @file jar machine saves =>
    obtain ⟨jar', disk', hremove, saves', hlook⟩ := jar.remove_spec saves now key
    refine ⟨.file jar', { machine with disk := disk' }, ?_, .file saves', .of_shows hlook⟩
    simp only [AnyStore.remove, hremove]
  | @request jar machine access refresh =>
    have htoken : isToken key = true := by rcases hkey with rfl | rfl <;> assumption
    obtain ⟨jar', hremove, hlook⟩ := jar.remove_spec htoken
    refine ⟨.request jar', machine, ?_, .request access refresh, .of_shows (.of_eq hlook)⟩
    simp only [AnyStore.remove, hremove]
  | @keyring k machine reliable =>
    obtain ⟨vault', hremove, reliable', hitems⟩ := k.remove_of_reliable reliable key
    refine ⟨.keyring k, { machine with vault := vault' }, ?_, .keyring reliable', ?_, ?_⟩
    · simp only [AnyStore.remove, hremove]
    · intro t
      have hgone := k.get_eq_found reliable' t key
      rw [hitems, if_pos rfl] at hgone
      exact hgone
    · intro t key' other
      refine .inl ((k.get_eq_found reliable' t key').trans ?_)
      rw [hitems, if_neg fun heq => other (Keyring.service_inj heq)]
      exact (k.get_eq_found reliable t key').symm

end AnyStore

namespace World

/-- The store of a world, which is called with its machine at the times of its clock. -/
def asStore : Store (StateM World) :=
  ⟨fun key w => w.get key, fun key value ttl w => w.set key value ttl, fun key w => w.remove key⟩

def asLog : Log (StateM World) := ⟨fun line w => ((), w.write line)⟩

/-- What a key of the store reads as at some time. -/
def reads? (w : World) (t : Instant) (key : String) : Except StoreError (Option Secret) :=
  w.store.reads w.machine t key

/-- Whether a time is not before the next two calls of the store. -/
def Precedes (w : World) (t : Instant) : Prop :=
  ¬ t < w.clock w.reads ∧ ¬ t < w.clock (w.reads + 1)

/-- A world after the removal of both credentials from another: neither can be read, and everything
else reads as before. -/
structure Cleared (keys : CredentialKeys) (w w' : World) : Prop where
  absent : ∀ t key, key = keys.access ∨ key = keys.refresh → w'.reads? t key = .ok none
  others : ∀ t key, w.Precedes t → key ≠ keys.access → key ≠ keys.refresh →
    w'.reads? t key = w.reads? t key
  faultless : w'.faults = []
  removes : w'.store.Removes keys w'.machine

variable {w : World} {key : String} {keys : CredentialKeys}

theorem remove_of_faultless (faultless : w.faults = []) {s : AnyStore} {machine : Machine}
    (h : w.store.remove w.now key w.machine = (.ok (), s, machine)) :
    ∃ w', (asStore.remove key).run w = (.ok (), w') ∧ w'.store = s ∧ w'.machine = machine ∧
      w'.faults = [] ∧ w'.now = w.clock (w.reads + 1) := by
  have hfault : (w.note (.remove key)).fault? .remove key = none := by
    unfold fault?
    rw [show (w.note (.remove key)).faults = [] from faultless]
    rfl
  refine ⟨{ w.note (.remove key) with store := s, machine, reads := w.reads + 1 }, ?_, rfl, rfl,
    faultless, rfl⟩
  show w.remove key = _
  unfold remove
  simp only [hfault]
  rw [show (w.note (.remove key)).store.remove (w.note (.remove key)).now key
    (w.note (.remove key)).machine = (.ok (), s, machine) from h]
  rfl

theorem logout_run (keys : CredentialKeys) (redirect : StateM World Unit)
    (faultless : w.faults = []) (removes : w.store.Removes keys w.machine) :
    ∃ w', (logout asStore asLog keys redirect).run w = (.ok (), (redirect.run w').2) ∧
      Cleared keys w w' := by
  obtain ⟨s₁, m₁, hremove₁, removes₁, hlost₁⟩ := removes.remove w.now (.inl rfl)
  obtain ⟨w₁, hrun₁, rfl, rfl, faultless₁, hnow₁⟩ := remove_of_faultless faultless hremove₁
  obtain ⟨s₂, m₂, hremove₂, removes₂, hlost₂⟩ := removes₁.remove w₁.now (.inr rfl)
  obtain ⟨w₂, hrun₂, rfl, rfl, faultless₂, -⟩ := remove_of_faultless faultless₁ hremove₂
  refine ⟨w₂.write ⟨.info, "Cleared stored credentials"⟩, ?_, ?_⟩
  · unfold logout
    rw [StateT.run_bind, hrun₁]
    show StateT.run (_ >>= _) w₁ = _
    rw [StateT.run_bind, hrun₂]
    rfl
  · constructor
    case absent =>
      intro t key hkey
      show (w₂.write _).store.reads (w₂.write _).machine t key = _
      rw [write_store, write_machine]
      by_cases hrefresh : key = keys.refresh
      · exact hrefresh ▸ hlost₂.gone t
      · have haccess : key = keys.access := hkey.resolve_right hrefresh
        rcases hlost₂.kept t key hrefresh with hkept | ⟨-, hlost⟩
        · exact hkept.trans (haccess ▸ hlost₁.gone t)
        · exact hlost
    case others =>
      intro t key ⟨hfirst, hsecond⟩ haccess hrefresh
      show (w₂.write _).store.reads (w₂.write _).machine t key = _
      rw [write_store, write_machine]
      have hkept₂ := (hlost₂.kept t key hrefresh).resolve_right fun hlost =>
        hsecond (hnow₁ ▸ hlost.1)
      have hkept₁ := (hlost₁.kept t key haccess).resolve_right fun hlost => hfirst hlost.1
      exact hkept₂.trans hkept₁
    case faultless => rw [write_faults, faultless₂]
    case removes => rwa [write_store, write_machine]

end World

/-- Whatever the store does, a logout tries both removals, that of the access credential first, and
redirects once after both if both succeed; otherwise it comes to the first refusal. Over a store of
any kind that carries the removals, whatever it holds, it succeeds. When it redirects neither
credential can be read, and everything else reads as before. Another logout after it succeeds too,
redirects, and changes nothing that can be read. -/
theorem logout_removes_both :
    (∀ {σ : Type} (s : Session (StateM σ)) (start : σ), ∃ steps result after,
      Records s.logout s.noted.logout start steps result after ∧ s.LogoutCourse steps result ∧
      steps.map CallStep.call = [.remove s.keys.access, .remove s.keys.refresh] ++
        if result.isOk then [.note .redirect] else []) ∧
    ∀ (keys : CredentialKeys) (w : World) (redirect : StateM World Unit), w.faults = [] →
      w.store.Removes keys w.machine →
      ∃ w', (logout World.asStore World.asLog keys redirect).run w = (.ok (), (redirect.run w').2) ∧
        World.Cleared keys w w' ∧
        ∀ (again : World) (redirect' : StateM World Unit), again.store = w'.store →
          again.machine = w'.machine → again.faults = [] →
          ∃ w'', (logout World.asStore World.asLog keys redirect').run again =
              (.ok (), (redirect'.run w'').2) ∧
            ∀ t key, again.Precedes t → w''.reads? t key = w'.reads? t key := by
  refine ⟨fun s start => ?_, fun keys w redirect faultless removes => ?_⟩
  · obtain ⟨steps, result, after, hrecords, hcourse⟩ := s.records_logout start
    exact ⟨steps, result, after, hrecords, hcourse, hcourse.calls⟩
  · obtain ⟨w', hrun, hcleared⟩ := World.logout_run keys redirect faultless removes
    refine ⟨w', hrun, hcleared, fun again redirect' hstore hmachine hfaults => ?_⟩
    have hremoves : again.store.Removes keys again.machine := by
      rw [hstore, hmachine]
      exact hcleared.removes
    obtain ⟨w'', hrun', hcleared'⟩ := World.logout_run keys redirect' hfaults hremoves
    refine ⟨w'', hrun', fun t key ht => ?_⟩
    have hreads : again.reads? t key = w'.reads? t key := by
      rw [World.reads?, hstore, hmachine]
      rfl
    by_cases hkey : key = keys.access ∨ key = keys.refresh
    · rw [hcleared'.absent t key hkey, hcleared.absent t key hkey]
    · obtain ⟨haccess, hrefresh⟩ := not_or.mp hkey
      exact (hcleared'.others t key ht haccess hrefresh).trans hreads

/-- A vault of which no item is an entry. -/
def spoiledVault : World where
  clock _ := .least
  store := .keyring ⟨"tokenward"⟩
  machine := ⟨Disk.blank [], { items := .ofList [("tokenward/accessToken", .text "token"),
    ("tokenward/theme", .text "dark")] }⟩

/-- The theorem where neither the access credential nor another key can be read. -/
theorem logout_removes_both_of_spoiled :
    (spoiledVault.reads? .least "accessToken").isOk = false ∧
      (spoiledVault.reads? .least "theme").isOk = false ∧
      ∃ w', (logout World.asStore World.asLog {} (pure ())).run spoiledVault = (.ok (), w') ∧
        w'.reads? .least "accessToken" = .ok none ∧
        w'.reads? .least "theme" = spoiledVault.reads? .least "theme" := by
  obtain ⟨w', hrun, hcleared, -⟩ :=
    logout_removes_both.2 {} spoiledVault (pure ()) rfl (.keyring rfl)
  refine ⟨by decide +kernel, by decide +kernel, w', hrun, hcleared.absent _ _ (.inl rfl), ?_⟩
  exact hcleared.others _ _ ⟨Instant.not_lt_self _, Instant.not_lt_self _⟩ (by decide) (by decide)

end BearerSession
