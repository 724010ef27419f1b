import BearerSession.Proofs.SessionRules
import BearerSession.Proofs.StoreRecord

namespace BearerSession

def Call.sets : Call → Bool
  | .set _ _ _ => true
  | _ => false

namespace SharedSession

variable (c : SharedSession) (o : StoreStart)

/-- What a logout that has removed the refresh credential means for what came later. -/
structure Cleared (i : Nat) (later earlier : List Moment) (s : Scene) : Prop where
  whole : ∃ answer before, earlier = ⟨i, .remove c.options.keys.access, answer⟩ :: before
  absent : (∀ m ∈ later, m.call.sets = false) →
    (s.world.get c.options.keys.access).1 = .ok none ∧
      (s.world.get c.options.keys.refresh).1 = .ok none
  /-- A login makes the next write, or a refresh that had read its credential before the logout. -/
  next : ∀ newer j key value ttl answer older,
    later = newer ++ ⟨j, .set key value ttl, answer⟩ :: older → (∀ m ∈ older, m.call.sets = false) →
    c.IsLogin j ∨ ∃ token, ⟨j, .get c.options.keys.refresh, .ok (some token)⟩ ∈ earlier ∧
      (∀ read, ⟨j, .get c.options.keys.refresh, read⟩ ∉ older) ∧
      (key = c.options.keys.refresh → value = token)

/-- What leaves the refresh credential of a login as it is: no login, no logout, and no write of a
refresh that had read its credential before. -/
structure Undisturbed (later : List Moment) : Prop where
  loyal : ∀ m ∈ later, m.call ≠ .remove c.options.keys.refresh
  fresh : ∀ newer j value ttl answer older,
    later = newer ++ ⟨j, .set c.options.keys.refresh value ttl, answer⟩ :: older →
    ¬ c.IsLogin j ∧ ∃ read, ⟨j, .get c.options.keys.refresh, read⟩ ∈ older

/-- What a login that has written its refresh credential means for what came later. -/
structure Kept (i : Nat) (value : Secret) (later earlier : List Moment) (s : Scene) : Prop where
  granted : c.LoginWrites i (own i earlier) c.options.keys.refresh value
  /-- The key holds the credential from its latest write on, as long as it lives. It may be gone
  earlier only where the clock has been set back. -/
  held : c.Undisturbed later → ∃ start,
    lastWrite c.options.keys.refresh (o.record s.past) =
        some (.stamp value start c.options.ttl) ∧
      ((s.world.get c.options.keys.refresh).1 =
          .ok (if s.world.now < start.plus c.options.ttl then some value else none) ∨
        o.SetBack s.past ∧ (s.world.get c.options.keys.refresh).1 = .ok none)

variable {c : SharedSession} {o : StoreStart} {i j : Nat} {h later earlier : List Moment}
  {key : String} {value : Secret} {ttl : Span} {s : Scene}

theorem Permits.of_set (hp : c.Permits i h (.set key value ttl)) :
    ttl = c.options.ttl ∧ (c.LoginWrites i h key value ∨ c.RefreshWrites i h key value) := by
  cases hp with
  | loginWrite hw => exact ⟨rfl, .inl hw⟩
  | refreshWrite hw => exact ⟨rfl, .inr hw⟩

theorem Permits.of_remove (hp : c.Permits i h (.remove key)) :
    key = c.options.keys.access ∨
      ∃ answer before, h = ⟨i, .remove c.options.keys.access, answer⟩ :: before := by
  cases hp with
  | removeAccess => exact .inl rfl
  | removeRefresh hh => exact .inr ⟨_, _, hh⟩

theorem LoginWrites.isLogin (hw : c.LoginWrites i h key value) : c.IsLogin i := by
  obtain ⟨email, password, -, -, hcall, -⟩ := hw
  exact ⟨email, password, hcall⟩

/-- Nobody comes between the two removals of a logout. -/
theorem remove_refresh_follows (distinct : c.options.keys.access ≠ c.options.keys.refresh)
    (orderly : c.conduct.Orderly h) {answer : Except StoreError Unit}
    (hs : ⟨i, .remove c.options.keys.refresh, answer⟩ :: earlier <:+ h) :
    ∃ answer before, earlier = ⟨i, .remove c.options.keys.access, answer⟩ :: before := by
  obtain ⟨hp, hunbroken⟩ := orderly _ earlier hs
  obtain ⟨answer', before, hown⟩ := (Permits.of_remove hp).resolve_left distinct.symm
  have hown : own i earlier = ⟨i, .remove c.options.keys.access, answer'⟩ :: before := hown
  rcases hunbroken with hidle | ⟨m, hm, htask⟩
  · have hsuspends := hidle _ (congrArg List.head? hown)
    cases hsuspends
  · obtain ⟨rest, rfl⟩ := List.head?_eq_some_iff.mp hm
    have htask : m.task = i := htask
    unfold own at hown
    rw [List.filter_cons_of_pos (by simpa using htask)] at hown
    exact ⟨answer', rest, by rw [(List.cons.inj hown).1]⟩

theorem lastWrite_cons_unset {m : Moment} (hm : m.call.sets = false)
    (hnone : lastWrite key (o.record h) = none) : lastWrite key (o.record (m :: h)) = none := by
  obtain ⟨j, call, answer⟩ := m
  cases call with
  | set key' value ttl => cases hm
  | get key' =>
    rw [StoreStart.record_op o rfl, lastWrite_other rfl]
    exact hnone
  | remove key' =>
    rw [StoreStart.record_op o rfl]
    by_cases hk : (StoreOp.remove key').writes key = true
    · simp [lastWrite, hk]
    · rw [lastWrite_other (Bool.not_eq_true _ ▸ hk)]
      exact hnone
  | _ => exact hnone

theorem lastWrite_unset (hquiet : ∀ m ∈ later, m.call.sets = false)
    (hnone : lastWrite key (o.record earlier) = none) :
    lastWrite key (o.record (later ++ earlier)) = none := by
  induction later with
  | nil => exact hnone
  | cons m later ih =>
    refine lastWrite_cons_unset (hquiet m List.mem_cons_self) (ih fun m' hm' => ?_)
    exact hquiet m' (List.mem_cons_of_mem _ hm')

theorem lastWrite_remove (key : String) (answer : Except StoreError Unit) (h : List Moment) :
    lastWrite key (o.record (⟨i, .remove key, answer⟩ :: h)) = none := by
  rw [StoreStart.record_op o rfl]
  simp [lastWrite, StoreOp.writes]

theorem lastWrite_logout {keys : CredentialKeys} {answer answer' : Except StoreError Unit}
    (hquiet : ∀ m ∈ later, m.call.sets = false) (hkey : key = keys.access ∨ key = keys.refresh) :
    lastWrite key (o.record (later ++ ⟨i, .remove keys.refresh, answer⟩ ::
      ⟨i, .remove keys.access, answer'⟩ :: earlier)) = none := by
  refine lastWrite_unset hquiet ?_
  rcases hkey with rfl | rfl
  · exact lastWrite_cons_unset rfl (lastWrite_remove _ _ _)
  · exact lastWrite_remove _ _ _

/-- The reading that a task fetched its refresh credential with. -/
theorem reading_of_fetched {keys : CredentialKeys} {token : Secret}
    (hf : fetched? keys (own j h) = some token) :
    ∃ newer older, h = newer ++ ⟨j, .get keys.refresh, .ok (some token)⟩ :: older ∧
      ∀ read, (⟨j, .get keys.refresh, read⟩ : Moment) ∉ newer := by
  induction h with
  | nil => cases hf
  | cons m h ih =>
    have hlater (hf : fetched? keys (own j h) = some token)
        (hm : ∀ read, (⟨j, .get keys.refresh, read⟩ : Moment) ≠ m) :
        ∃ newer older, m :: h = newer ++ ⟨j, .get keys.refresh, .ok (some token)⟩ :: older ∧
          ∀ read, (⟨j, .get keys.refresh, read⟩ : Moment) ∉ newer := by
      obtain ⟨newer, older, rfl, hnewer⟩ := ih hf
      refine ⟨m :: newer, older, rfl, fun read hread => ?_⟩
      rcases List.mem_cons.mp hread with heq | hread
      · exact hm read heq
      · exact hnewer read hread
    obtain ⟨k, call, answer⟩ := m
    by_cases hk : k = j
    · subst hk
      rw [own_cons_self] at hf
      cases call with
      | get key =>
        by_cases hkey : key = keys.refresh
        · subst hkey
          have hanswer : answer.toOption.join = some token := (if_pos rfl).symm.trans hf
          have hread : answer = .ok (some token) := by
            rcases answer with e | read
            · cases hanswer
            · exact congrArg Except.ok hanswer
          exact ⟨[], h, by rw [hread]; rfl, fun read => List.not_mem_nil⟩
        · refine hlater ((if_neg hkey).symm.trans hf) fun read heq => ?_
          injection heq with _ hcall
          injection hcall with hcall
          exact hkey hcall.symm
      | _ => exact hlater hf fun read heq => by cases heq
    · rw [own_cons_other hk] at hf
      refine hlater hf fun read heq => hk ?_
      injection heq with htask
      exact htask.symm

theorem Undisturbed.tail {m : Moment} (hu : c.Undisturbed (m :: later)) : c.Undisturbed later := by
  refine ⟨fun m' hm' => hu.loyal m' (List.mem_cons_of_mem m hm'), ?_⟩
  rintro newer j value ttl answer older rfl
  exact hu.fresh (m :: newer) j value ttl answer older rfl

theorem split_at_moment {g : Moment} {newer older base : List Moment}
    (h : later ++ base = newer ++ g :: older) :
    (∃ l, later = newer ++ g :: l ∧ older = l ++ base) ∨
      ∃ l, newer = later ++ l ∧ base = l ++ g :: older := by
  rcases List.append_eq_append_iff.mp h with ⟨l, hnewer, hbase⟩ | ⟨l, hlater, hold⟩
  · exact .inr ⟨l, hnewer, hbase⟩
  · cases l with
    | nil => exact .inr ⟨[], by rw [hlater]; simp, hold.symm⟩
    | cons g' l =>
      obtain ⟨rfl, rfl⟩ := List.cons.inj hold
      exact .inl ⟨l, hlater, rfl⟩

/-- Undisturbed, a write of the refresh key is that of a refresh that had read the key since. -/
theorem write_undisturbed (distinct : c.options.keys.access ≠ c.options.keys.refresh)
    (orderly : c.conduct.Orderly h) {base : List Moment} {answer : Except StoreError Unit}
    (hs : ⟨j, .set c.options.keys.refresh value ttl, answer⟩ :: (later ++ base) <:+ h)
    (hu : c.Undisturbed (⟨j, .set c.options.keys.refresh value ttl, answer⟩ :: later)) :
    ttl = c.options.ttl ∧ ∃ newer older,
      later = newer ++ ⟨j, .get c.options.keys.refresh, .ok (some value)⟩ :: older := by
  obtain ⟨hlogin, read, hread⟩ := hu.fresh [] j value ttl answer later rfl
  obtain ⟨hp, -⟩ := orderly _ (later ++ base) hs
  obtain ⟨rfl, hwrites⟩ := Permits.of_set hp
  obtain ⟨token, _, _, -, hfetched, -, -, hvalue⟩ :=
    hwrites.resolve_left fun hw => hlogin hw.isLogin
  obtain rfl : value = token := (hvalue.resolve_left fun ha => distinct ha.1.symm).2
  obtain ⟨newer, older, hsplit, hnewer⟩ := reading_of_fetched hfetched
  rcases split_at_moment hsplit with ⟨l, hlater, -⟩ | ⟨l, rfl, -⟩
  · exact ⟨rfl, newer, l, hlater⟩
  · exact absurd (List.mem_append_left l hread) (hnewer read)

section Spans

variable (distinct : c.options.keys.access ≠ c.options.keys.refresh)
  (orderly : c.conduct.Orderly s.past) (agrees : o.Agrees s)

include distinct orderly agrees

theorem cleared {answer : Except StoreError Unit}
    (hs : s.past = later ++ ⟨i, .remove c.options.keys.refresh, answer⟩ :: earlier) :
    c.Cleared i later earlier s := by
  obtain ⟨answer', before, rfl⟩ :=
    remove_refresh_follows distinct orderly (hs ▸ List.suffix_append _ _)
  refine ⟨⟨answer', before, rfl⟩, fun hquiet => ?_, ?_⟩
  · have hread {key : String} (hkey : key = c.options.keys.access ∨ key = c.options.keys.refresh) :
        (s.world.get key).1 = .ok none :=
      (agrees.get key).eq_none (hs ▸ lastWrite_logout hquiet hkey)
    exact ⟨hread (.inl rfl), hread (.inr rfl)⟩
  · rintro newer j key value ttl answer'' older rfl hquiet
    have hs' : newer ++ ⟨j, .set key value ttl, answer''⟩ :: (older ++
        ⟨i, .remove c.options.keys.refresh, answer⟩ ::
          ⟨i, .remove c.options.keys.access, answer'⟩ :: before) = s.past := by
      rw [hs, List.append_assoc]
      rfl
    obtain ⟨hp, -⟩ := orderly ⟨j, .set key value ttl, answer''⟩ _ ⟨newer, hs'⟩
    obtain ⟨-, hlogin | ⟨token, _, _, -, hfetched, -, -, hvalue⟩⟩ := Permits.of_set hp
    · exact .inl hlogin.isLogin
    · obtain ⟨newer', older', hsplit, hnewer⟩ := reading_of_fetched hfetched
      rcases split_at_moment hsplit with ⟨l, rfl, rfl⟩ | ⟨l, rfl, hbefore⟩
      · -- A reading after the logout found nothing.
        have hread := agrees.truthful j c.options.keys.refresh (.ok (some token)) _
          ⟨newer ++ ⟨j, .set key value ttl, answer''⟩ :: newer', by simpa using hs'⟩
        have hquiet' : ∀ m ∈ l, m.call.sets = false := fun m hm => hquiet m (by simp [hm])
        cases hread.eq_none (lastWrite_logout hquiet' (.inr rfl))
      · refine .inr ⟨token, ?_, fun read hread => hnewer read (by simp [hread]), fun hkey => ?_⟩
        · cases l with
          | nil => cases (List.cons.inj hbefore).1
          | cons g l =>
            rw [(List.cons.inj hbefore).2]
            simp
        · exact (hvalue.resolve_left fun ha => distinct (ha.1.symm.trans hkey)).2

theorem lastWrite_undisturbed {base : List Moment} (hs : later ++ base <:+ s.past)
    (hu : c.Undisturbed later) (hbase : ∃ start,
      lastWrite c.options.keys.refresh (o.record base) = some (.stamp value start c.options.ttl)) :
    ∀ older, older <:+ later → ∃ start, lastWrite c.options.keys.refresh
      (o.record (older ++ base)) = some (.stamp value start c.options.ttl) := by
  induction later with
  | nil =>
    intro older holder
    cases List.suffix_nil.mp holder
    exact hbase
  | cons m later ih =>
    have ih := ih ((List.suffix_cons m _).trans hs) hu.tail
    intro older holder
    rcases List.suffix_cons_iff.mp holder with rfl | holder
    · obtain ⟨start, hlast⟩ := ih later List.suffix_rfl
      obtain ⟨j, call, answer⟩ := m
      have hother {op : StoreOp} (hop : call.storeOp? = some op)
          (hw : op.writes c.options.keys.refresh = false) :
          lastWrite c.options.keys.refresh (o.record (⟨j, call, answer⟩ :: (later ++ base))) =
            some (.stamp value start c.options.ttl) := by
        rw [StoreStart.record_op o hop, lastWrite_other hw, hlast]
      cases call with
      | get key => exact ⟨start, hother rfl rfl⟩
      | remove key =>
        have hne : key ≠ c.options.keys.refresh := fun heq =>
          hu.loyal _ List.mem_cons_self (congrArg Call.remove heq)
        exact ⟨start, hother rfl (by simp [StoreOp.writes, hne])⟩
      | set key value' ttl =>
        by_cases hkey : key = c.options.keys.refresh
        · subst hkey
          obtain ⟨rfl, newer, older, rfl⟩ := write_undisturbed distinct orderly hs hu
          -- What the refresh had read was the credential of the login, by the induction.
          have htruth := agrees.truthful j c.options.keys.refresh (.ok (some value'))
            (older ++ base) (.trans ⟨newer, by simp⟩ ((List.suffix_cons _ _).trans hs))
          obtain ⟨start', hread⟩ := ih older ⟨newer ++ [_], by rw [List.append_assoc]; rfl⟩
          obtain ⟨t, ht, -⟩ := liveValue_eq_some_iff.mp htruth.promised_of_some
          rw [hread] at ht
          have hsame : value = value' := congrArg StoredEntry.value (Option.some.inj ht)
          rw [List.cons_append, StoreStart.record_op o rfl, lastWrite_set, hsame]
          exact ⟨_, rfl⟩
        · exact ⟨start, hother rfl (by simp [StoreOp.writes, hkey])⟩
      | _ => exact ⟨start, hlast⟩
    · exact ih older holder

theorem kept {answer : Except StoreError Unit}
    (hs : s.past = later ++ ⟨i, .set c.options.keys.refresh value ttl, answer⟩ :: earlier)
    (hlogin : c.IsLogin i) : c.Kept o i value later earlier s := by
  obtain ⟨hp, -⟩ := orderly _ earlier ⟨later, hs.symm⟩
  obtain ⟨rfl, hwrites⟩ := Permits.of_set hp
  refine ⟨hwrites.resolve_right fun ⟨_, _, _, hne, _⟩ => hne hlogin, fun hu => ?_⟩
  have hbase : lastWrite c.options.keys.refresh (o.record
      (⟨i, .set c.options.keys.refresh value c.options.ttl, answer⟩ :: earlier)) =
      some (.stamp value (o.time earlier) c.options.ttl) := by
    rw [StoreStart.record_op o rfl, lastWrite_set]
  obtain ⟨start, hlast⟩ := lastWrite_undisturbed distinct orderly agrees ⟨[], hs.symm⟩ hu
    ⟨_, hbase⟩ later List.suffix_rfl
  rw [← hs] at hlast
  refine ⟨start, hlast, (agrees.get c.options.keys.refresh).imp_left fun hread => ?_⟩
  rw [hread, promised, hlast, ← agrees.now]
  unfold liveValue StoredEntry.isLive StoredEntry.stamp
  by_cases hlive : s.world.now < start.plus c.options.ttl <;> simp [Option.filter, hlive]

end Spans

end SharedSession

/-- However many calls of a session run and in whatever order they are polled, as long as all calls
of the store succeeded: every logout lasts, and every login does. -/
theorem logouts_and_logins_last (c : SharedSession)
    (distinct : c.options.keys.access ≠ c.options.keys.refresh) (o : StoreStart) (e : Endpoint)
    {s : Scene} (visit : Task.Visits e.scenes c.tasks ⟨o.world, []⟩ s)
    (succeeded : ∀ m ∈ s.past, m.succeeds = true) :
    (∀ i answer later earlier,
      s.past = later ++ ⟨i, .remove c.options.keys.refresh, answer⟩ :: earlier →
      c.Cleared i later earlier s) ∧
    ∀ i value ttl answer later earlier,
      s.past = later ++ ⟨i, .set c.options.keys.refresh value ttl, answer⟩ :: earlier →
      c.IsLogin i → c.Kept o i value later earlier s := by
  obtain ⟨orderly, -⟩ := Conduct.visits_orderly c.run_follows visit
  have agrees := StoreStart.agrees_of_visits c.run_follows visit succeeded
  refine ⟨fun i answer later earlier hs => ?_, fun i value ttl answer later earlier hs hlogin => ?_⟩
  · exact SharedSession.cleared distinct orderly agrees hs
  · exact SharedSession.kept distinct orderly agrees hs hlogin

/-- An endpoint that grants what it is asked for, a refresh later than a login. -/
def grantingEndpoint : Endpoint where
  outcome w :=
    match w.record with
    | [.send _ _, .get _] =>
      .ok (.ofData (.object [("refreshToken", .object [("accessToken", .string "renewed")])]))
    | _ =>
      .ok (.ofData (.object [("login", .object
        [("accessToken", .string "new"), ("refreshToken", .string "newer")])]))
  delay w :=
    match w.record with
    | [.send _ _, .get _] => 2
    | _ => 1
  left w := w.replies

/-- Calls of a session with the options of old. -/
def plainSession (calls : List SessionCall) : SharedSession where
  destination := { scheme := "http", path := .segments [] }
  options := {}
  redirects := true
  calls := calls

/-- A world in which no time passes, with an empty store. -/
def emptyStart : StoreStart where
  world := stillWorld {} .least
  history := []
  reliable := rfl
  kept := (AnyStore.IsFresh.memory _).keeps _

/-- The theorem at a logout while a login awaits its reply: the login makes the next write. -/
theorem logouts_and_logins_last_of_two :
    let c := plainSession [.login "user" ⟨"secret"⟩, .logout]
    ∃ s, Task.Visits grantingEndpoint.scenes c.tasks ⟨emptyStart.world, []⟩ s ∧
      (∀ m ∈ s.past, m.succeeds = true) ∧
      (∃ later earlier, s.past = later ++ ⟨1, .remove "refreshToken", .ok ()⟩ :: earlier ∧
        c.Cleared 1 later earlier s) ∧
      ∃ later earlier, s.past =
          later ++ ⟨0, .set "refreshToken" ⟨"newer"⟩ defaultTtl, .ok ()⟩ :: earlier ∧
        c.Kept emptyStart 0 ⟨"newer"⟩ later earlier s := by
  intro c
  have run := Task.passes_reaches grantingEndpoint.scenes 2 c.tasks ⟨emptyStart.world, []⟩
  have succeeded := List.all_eq_true.mp (show (Task.passes grantingEndpoint.scenes 2 c.tasks
    ⟨emptyStart.world, []⟩).2.past.all Moment.succeeds = true from rfl)
  obtain ⟨hcleared, hkept⟩ := logouts_and_logins_last c (by decide) emptyStart grantingEndpoint
    (.between run) succeeded
  exact ⟨_, .between run, succeeded, ⟨[_, _, _, _, _], _, rfl, hcleared 1 _ _ _ rfl⟩,
    [_], _, rfl, hkept 0 _ _ _ _ _ rfl ⟨_, _, rfl⟩⟩

/-- A refresh that is under way writes what it had read: after a logout, with no login at all, and
after a login, with neither login nor logout since. -/
theorem refresh_outlives_logout_and_login :
    (∃ s, Task.Visits grantingEndpoint.scenes (plainSession [.refresh, .logout]).tasks
        ⟨heldWorld, []⟩ s ∧ (∀ m ∈ s.past, m.succeeds = true) ∧
      ⟨1, .remove "refreshToken", .ok ()⟩ ∈ s.past ∧
      (s.world.get "accessToken").1 = .ok (some ⟨"renewed"⟩) ∧
      (s.world.get "refreshToken").1 = .ok (some ⟨"r"⟩)) ∧
    ∃ s, Task.Visits grantingEndpoint.scenes
        (plainSession [.refresh, .login "user" ⟨"secret"⟩]).tasks ⟨heldWorld, []⟩ s ∧
      (∀ m ∈ s.past, m.succeeds = true) ∧
      ⟨1, .set "refreshToken" ⟨"newer"⟩ defaultTtl, .ok ()⟩ ∈ s.past ∧
      (s.world.get "refreshToken").1 = .ok (some ⟨"r"⟩) := by
  have logout := Task.passes_reaches grantingEndpoint.scenes 3
    (plainSession [.refresh, .logout]).tasks ⟨heldWorld, []⟩
  have login := Task.passes_reaches grantingEndpoint.scenes 3
    (plainSession [.refresh, .login "user" ⟨"secret"⟩]).tasks ⟨heldWorld, []⟩
  exact ⟨⟨_, .between logout, List.all_eq_true.mp rfl,
      List.mem_iff_append.mpr ⟨[_, _, _, _, _], _, rfl⟩, rfl, rfl⟩,
    ⟨_, .between login, List.all_eq_true.mp rfl,
      List.mem_iff_append.mpr ⟨[_, _, _, _], _, rfl⟩, rfl⟩⟩

end BearerSession
