import BearerSession.Proofs.JarReopening

namespace BearerSession

section Entries

variable {t : Instant} {key : String} {d d' : JarData}

/-- Whether data hold an entry at a key, as far as it lives at some time. -/
def JarData.Shows (d : JarData) (t : Instant) (key : String) (entry : Option StoredEntry) : Prop :=
  ∀ e, e.isLive t = true → (d.entries.get? key = some e ↔ entry = some e)

theorem JarData.Shows.of_prune (h : d.prune t = d'.prune t) (key : String) :
    d.Shows t key (d'.entries.get? key) := by
  intro e he
  have hkey : (d.entries.get? key).filter (fun e => e.isLive t) =
      (d'.entries.get? key).filter fun e => e.isLive t := by
    have hget := congrArg (fun m : JarData => m.entries.get? key) h
    simpa only [JarData.prune, SortedMap.get?_filter] using hget
  have hsome (x : Option StoredEntry) :
      x.filter (fun e => e.isLive t) = some e ↔ x = some e := by
    rw [Option.filter_eq_some_iff]
    exact and_iff_left he
  rw [← hsome, hkey, hsome]

theorem JarData.Shows.trans {entry : Option StoredEntry} (h : d.Shows t key (d'.entries.get? key))
    (h' : d'.Shows t key entry) : d.Shows t key entry :=
  fun e he => (h e he).trans (h' e he)

end Entries

/-- What is done with one of several stores over a file. -/
inductive JarTurn (ι : Type)
  | opens (i : ι)
  | call (i : ι) (now : Instant) (op : StoreOp)

namespace JarTurn

variable {ι : Type} [DecidableEq ι]

def writes (key : String) : JarTurn ι → Bool
  | .opens _ => false
  | .call _ _ op => op.writes key

/-- Whether a turn is at or before a time. -/
def IsBy (t : Instant) : JarTurn ι → Prop
  | .opens _ => True
  | .call _ now _ => ¬ t < now

/-- The calls of one store. -/
def callsOf (i : ι) : List (JarTurn ι) → StoreHistory
  | [] => []
  | .opens _ :: turns => callsOf i turns
  | .call j now op :: turns => if j = i then (now, op) :: callsOf i turns else callsOf i turns

end JarTurn

/-- Stores over one file: those that have been opened, and the one that saved last. -/
structure SharedJar (ι : Type) where
  disk : Disk
  jars : ι → Option FileJar := fun _ => none
  saver : Option ι := none

namespace SharedJar

variable {ι : Type} [DecidableEq ι]

def hold (s : SharedJar ι) (i : ι) (jar : FileJar) (disk : Disk) : SharedJar ι :=
  { s with disk, jars := fun j => if j = i then some jar else s.jars j }

/-- A turn that succeeds. A store is opened once. -/
def act (path : String) (s : SharedJar ι) : JarTurn ι → Option (SharedJar ι)
  | .opens i =>
    match s.jars i, FileJar.openAt path s.disk with
    | none, (.ok jar, disk) => some (s.hold i jar disk)
    | _, _ => none
  | .call i now op =>
    match s.jars i with
    | none => none
    | some jar =>
      match op.perform (FileJar.calls now) (jar, s.disk) with
      | (.ok _, jar', disk) =>
        some { s.hold i jar' disk with saver := if jar.saves op then some i else s.saver }
      | (.error _, _) => none

/-- The stores after turns that all succeed, the latest turn first. -/
def after (path : String) (start : Disk) : List (JarTurn ι) → Option (SharedJar ι)
  | [] => some { disk := start }
  | turn :: past => do (← after path start past).act path turn

section Turns

variable {path : String} {start disk : Disk} {s s' : SharedJar ι} {i j : ι} {now : Instant}
  {op : StoreOp} {turn : JarTurn ι} {past : List (JarTurn ι)} {jar : FileJar}

theorem act_opens (h : s.act path (.opens i) = some s') :
    ∃ jar disk, s.jars i = none ∧ FileJar.openAt path s.disk = (.ok jar, disk) ∧
      s' = s.hold i jar disk := by
  unfold act at h
  dsimp only at h
  split at h
  next jar disk hnone hopen =>
    cases h
    exact ⟨jar, disk, hnone, hopen, rfl⟩
  next => cases h

theorem act_call (h : s.act path (.call i now op) = some s') :
    ∃ jar reply jar' disk, s.jars i = some jar ∧
      op.perform (FileJar.calls now) (jar, s.disk) = (.ok reply, jar', disk) ∧
      s' = { s.hold i jar' disk with saver := if jar.saves op then some i else s.saver } := by
  unfold act at h
  dsimp only at h
  split at h
  next => cases h
  next jar hjar =>
    split at h
    next reply jar' disk hcall =>
      cases h
      exact ⟨jar, reply, jar', disk, hjar, hcall, rfl⟩
    next => cases h

/-- What holds of a store: its copy is what its calls made of what it found in the file. -/
structure Known (path : String) (start : Disk) (past : List (JarTurn ι)) (i : ι) (jar : FileJar) :
    Prop where
  home : jar.path = path
  traced : ∃ later earlier s₀ found disk₁, past = later ++ .opens i :: earlier ∧
    after path start earlier = some s₀ ∧ FileJar.openAt path s₀.disk = (.ok found, disk₁) ∧
    FileJar.Tracks found.data (JarTurn.callsOf i later) jar

/-- What holds between turns: unless no store has saved, the file is the copy of the latest that
did. -/
structure Inv (path : String) (start : Disk) (past : List (JarTurn ι)) (s : SharedJar ι) : Prop where
  known : ∀ i jar, s.jars i = some jar → Known path start past i jar
  unsaved : s.saver = none → ∀ l content mode,
    s.disk.at? l = some (.file content mode) ↔ start.at? l = some (.file content mode)
  saved : ∀ i, s.saver = some i →
    ∃ jar, s.jars i = some jar ∧ FileJar.openAt path s.disk = (.ok jar, s.disk)

theorem Known.other (h : Known path start past i jar)
    (hother : ∀ past, JarTurn.callsOf i (turn :: past) = JarTurn.callsOf i past) :
    Known path start (turn :: past) i jar := by
  obtain ⟨later, earlier, s₀, found, disk₁, rfl, hearlier, hopen, htracks⟩ := h.traced
  refine ⟨h.home, turn :: later, earlier, s₀, found, disk₁, rfl, hearlier, hopen, ?_⟩
  rw [hother]
  exact htracks

theorem Inv.opens (h : Inv path start past s) (hpast : after path start past = some s)
    (hact : s.act path (.opens i) = some s') : Inv path start (.opens i :: past) s' := by
  obtain ⟨jar, disk, hnew, hopen, rfl⟩ := act_opens hact
  refine ⟨fun j jar' hj => ?_, fun hsaver l content mode => ?_, fun j hsaver => ?_⟩
  · by_cases hji : j = i
    · subst hji
      have hjar : jar = jar' := Option.some.inj ((if_pos rfl).symm.trans hj)
      subst hjar
      exact ⟨(FileJar.openAt_eq_ok_iff.mp hopen).2.1, [], past, s, jar, disk, rfl, hpast, hopen,
        .of_openAt hopen⟩
    · exact (h.known j jar' ((if_neg hji).symm.trans hj)).other fun _ => rfl
  · obtain ⟨hmade, -⟩ := FileJar.openAt_eq_ok_iff.mp hopen
    exact (Disk.file_makeSteps_iff hmade l content mode).trans (h.unsaved hsaver l content mode)
  · -- The file is the saver's copy, so that nothing was made by the opening.
    obtain ⟨jar', hj, hfile⟩ := h.saved j hsaver
    have hji : j ≠ i := fun heq => by
      rw [heq, hnew] at hj
      cases hj
    rw [hfile] at hopen
    cases hopen
    exact ⟨jar, (if_neg hji).trans hj, hfile⟩

theorem Known.call {jar' : FileJar} {reply : StoreReply} {disk' : Disk}
    (h : Known path start past i jar)
    (hcall : op.perform (FileJar.calls now) (jar, disk) = (.ok reply, jar', disk')) :
    Known path start (.call i now op :: past) i jar' := by
  obtain ⟨later, earlier, s₀, found, disk₁, rfl, hearlier, hopen, htracks⟩ := h.traced
  obtain ⟨htracks', hpath, -⟩ := htracks.call hcall
  refine ⟨hpath.trans h.home, .call i now op :: later, earlier, s₀, found, disk₁, rfl, hearlier,
    hopen, ?_⟩
  rw [JarTurn.callsOf, if_pos rfl]
  exact htracks'

theorem Inv.call (h : Inv path start past s) (hact : s.act path (.call i now op) = some s') :
    Inv path start (.call i now op :: past) s' := by
  obtain ⟨jar, reply, jar', disk, hi, hcall, rfl⟩ := act_call hact
  have hknown := h.known i jar hi
  obtain ⟨_, _, _, _, _, _, _, _, htracks⟩ := hknown.traced
  obtain ⟨-, -, hsaved, hspared⟩ := htracks.call hcall
  refine ⟨fun j jar'' hj => ?_, fun hsaver => ?_, fun j hsaver => ?_⟩
  · by_cases hji : j = i
    · subst hji
      have hjar : jar' = jar'' := Option.some.inj ((if_pos rfl).symm.trans hj)
      exact hjar ▸ hknown.call hcall
    · refine (h.known j jar'' ((if_neg hji).symm.trans hj)).other fun past => ?_
      rw [JarTurn.callsOf, if_neg (Ne.symm hji)]
  · cases hsaves : jar.saves op with
    | true => simp [hsaves] at hsaver
    | false =>
      obtain ⟨-, rfl⟩ := hspared hsaves
      exact h.unsaved (by simpa [hsaves] using hsaver)
  · cases hsaves : jar.saves op with
    | true =>
      have hij : i = j := by simpa [hsaves] using hsaver
      subst hij
      exact ⟨jar', if_pos rfl, hknown.home ▸ (hsaved hsaves).1⟩
    | false =>
      obtain ⟨rfl, rfl⟩ := hspared hsaves
      obtain ⟨copy, hj, hfile⟩ := h.saved j (by simpa [hsaves] using hsaver)
      refine ⟨copy, ?_, hfile⟩
      by_cases hji : j = i
      · rw [← hj, hji, hi]
        exact if_pos rfl
      · exact (if_neg hji).trans hj

theorem inv_of_after (h : after path start past = some s) : Inv path start past s := by
  induction past generalizing s with
  | nil =>
    cases h
    exact ⟨nofun, fun _ _ _ _ => .rfl, nofun⟩
  | cons turn past ih =>
    obtain ⟨before, hpast, hact⟩ := Option.bind_eq_some_iff.mp h
    cases turn with
    | opens i => exact (ih hpast).opens hpast hact
    | call i now op => exact (ih hpast).call hact

/-- Whether all stores of some kind hold an entry at a key, and one of them saved last. -/
structure Keeps (kind : ι → Prop) (t : Instant) (key : String) (entry : Option StoredEntry)
    (s : SharedJar ι) : Prop where
  copies : ∀ i jar, kind i → s.jars i = some jar → jar.data.Shows t key entry
  saver : ∃ i, kind i ∧ s.saver = some i

section Keeping

variable {kind : ι → Prop} {t : Instant} {key : String} {entry : Option StoredEntry}

/-- What a store's call makes of a key. -/
theorem shows_call {reply : StoreReply} {jar' : FileJar} {disk' : Disk}
    (hcall : op.perform (FileJar.calls now) (jar, disk) = (.ok reply, jar', disk'))
    (ht : ¬ t < now) (key : String) :
    jar'.data.Shows t key
      (if op.writes key then lastWrite key [(now, op)] else jar.data.entries.get? key) :=
  StoreOp.get?_apply op now jar.data.entries key ▸ .of_prune (FileJar.call_prune hcall ht) key

theorem Keeps.act (h : Keeps kind t key entry s) (hinv : Inv path start past s)
    (hact : s.act path turn = some s') (hwrites : turn.writes key = false) (hby : turn.IsBy t)
    (hsaver : ∀ i, s'.saver = some i → kind i) : Keeps kind t key entry s' := by
  obtain ⟨saver, hkind, hsaved⟩ := h.saver
  cases turn with
  | opens i =>
    obtain ⟨jar, disk, hnew, hopen, rfl⟩ := act_opens hact
    refine ⟨fun j jar' hj hjar' => ?_, saver, hkind, hsaved⟩
    change (if j = i then some jar else s.jars j) = some jar' at hjar'
    split at hjar'
    next =>
      -- The copy is read from the file, which is that of the store that saved last.
      obtain ⟨copy, hcopy, hfile⟩ := hinv.saved saver hsaved
      rw [hfile] at hopen
      cases hopen
      cases hjar'
      exact h.copies saver jar hkind hcopy
    next => exact h.copies j jar' hj hjar'
  | call i now op =>
    obtain ⟨jar, reply, jar', disk, hi, hcall, rfl⟩ := act_call hact
    refine ⟨fun j jar'' hj hjar'' => ?_, ?_⟩
    · change (if j = i then some jar' else s.jars j) = some jar'' at hjar''
      split at hjar''
      next heq =>
        cases hjar''
        have hshows := shows_call hcall hby key
        have hother : op.writes key = false := hwrites
        rw [hother, if_neg Bool.false_ne_true] at hshows
        exact hshows.trans (h.copies i jar (heq ▸ hj) hi)
      next => exact h.copies j jar'' hj hjar''
    · cases hsaves : jar.saves op with
      | true => exact ⟨i, hsaver i (by simp [hsaves]), by simp⟩
      | false => exact ⟨saver, hkind, by simpa [hsaves] using hsaved⟩

/-- A call of a key that saves is kept by its store and by those that are opened later. -/
theorem Keeps.of_call (hact : s.act path (.call j now op) = some s') (hjar : s.jars j = some jar)
    (hsaves : jar.saves op = true) (hwrites : op.writes key = true) (ht : ¬ t < now) :
    Keeps (fun i => i = j ∨ s.jars i = none) t key (lastWrite key [(now, op)]) s' := by
  obtain ⟨jar₀, reply, jar', disk, hj, hcall, rfl⟩ := act_call hact
  rw [hjar] at hj
  cases hj
  refine ⟨fun i copy hi hcopy => ?_, j, .inl rfl, by simp [hsaves]⟩
  change (if i = j then some jar' else s.jars i) = some copy at hcopy
  split at hcopy
  next =>
    cases hcopy
    have hshows := shows_call hcall ht key
    rwa [if_pos hwrites] at hshows
  next hne =>
    rw [hi.resolve_left hne] at hcopy
    cases hcopy

theorem after_of_append {later : List (JarTurn ι)}
    (h : SharedJar.after path start (later ++ past) = some s) :
    ∃ s', SharedJar.after path start past = some s' := by
  induction later generalizing s with
  | nil => exact ⟨s, h⟩
  | cons turn later ih =>
    obtain ⟨before, hbefore, -⟩ := Option.bind_eq_some_iff.mp h
    exact ih hbefore

theorem Keeps.after {later : List (JarTurn ι)} (h : Keeps kind t key entry s')
    (hpast : SharedJar.after path start past = some s')
    (hrun : SharedJar.after path start (later ++ past) = some s)
    (hwrites : ∀ turn ∈ later, turn.writes key = false) (hby : ∀ turn ∈ later, turn.IsBy t)
    (hsavers : ∀ recent, recent <:+ later → ∀ s, SharedJar.after path start (recent ++ past) = some s →
      ∀ i, s.saver = some i → kind i) : Keeps kind t key entry s := by
  induction later generalizing s with
  | nil =>
    rw [List.nil_append, hpast] at hrun
    cases hrun
    exact h
  | cons turn later ih =>
    obtain ⟨before, hbefore, hact⟩ := Option.bind_eq_some_iff.mp hrun
    have hkeeps := ih hbefore (fun u hu => hwrites u (List.mem_cons_of_mem turn hu))
      (fun u hu => hby u (List.mem_cons_of_mem turn hu))
      fun recent hrecent => hsavers recent (hrecent.trans (List.suffix_cons turn later))
    exact hkeeps.act (inv_of_after hbefore) hact (hwrites turn List.mem_cons_self)
      (hby turn List.mem_cons_self) (hsavers (turn :: later) List.suffix_rfl s hrun)

end Keeping

end Turns

end SharedJar

/-- Stores are opened at one path, at any points, and called in any order, and all calls succeed.
As long as none has saved, no file has changed. Afterwards the file holds, as far as entries live,
what the store that saved last made of what it found when it was opened: at each key the result of
its own latest write, or else what it found. So a call that saved is not lost to calls on other keys,
unless a store that was open at the time saves later. -/
theorem shared_file_is_last_savers {ι : Type} [DecidableEq ι] {path : String} {start : Disk}
    {turns : List (JarTurn ι)} {s : SharedJar ι}
    (run : SharedJar.after path start turns = some s) :
    (s.saver = none → ∀ l content mode,
      s.disk.at? l = some (.file content mode) ↔ start.at? l = some (.file content mode)) ∧
    (∀ i, s.saver = some i → ∃ later earlier s₀ found disk₁ fresh,
      turns = later ++ .opens i :: earlier ∧ SharedJar.after path start earlier = some s₀ ∧
        FileJar.openAt path s₀.disk = (.ok found, disk₁) ∧
        FileJar.openAt path s.disk = (.ok fresh, s.disk) ∧
        ∀ t, (∀ u ∈ JarTurn.callsOf i later, ¬ t < u.1) → ∀ key,
          fresh.data.Shows t key
            (if (JarTurn.callsOf i later).any (·.2.writes key) then
              lastWrite key (JarTurn.callsOf i later)
            else found.data.entries.get? key)) ∧
    ∀ later earlier j now op s₀ jar key,
      turns = later ++ .call j now op :: earlier → SharedJar.after path start earlier = some s₀ →
      s₀.jars j = some jar → jar.saves op = true → op.writes key = true →
      (∀ turn ∈ later, turn.writes key = false) →
      (∀ recent, recent <:+ later → ∀ s₁,
        SharedJar.after path start (recent ++ .call j now op :: earlier) = some s₁ →
        ∀ i, s₁.saver = some i → i = j ∨ s₀.jars i = none) →
      ∀ t, ¬ t < now → (∀ turn ∈ later, turn.IsBy t) →
        ∃ fresh, FileJar.openAt path s.disk = (.ok fresh, s.disk) ∧
          fresh.data.Shows t key (lastWrite key [(now, op)]) := by
  have hinv := SharedJar.inv_of_after run
  refine ⟨hinv.unsaved, fun i hsaver => ?_, ?_⟩
  · obtain ⟨jar, hjar, hfile⟩ := hinv.saved i hsaver
    obtain ⟨later, earlier, s₀, found, disk₁, hturns, hearlier, hopen, htracks⟩ :=
      (hinv.known i jar hjar).traced
    refine ⟨later, earlier, s₀, found, disk₁, jar, hturns, hearlier, hopen, hfile, ?_⟩
    intro t ht key
    have hshows := JarData.Shows.of_prune (htracks.agrees t ht) key
    rwa [JarData.withCalls, get?_entriesAfter] at hshows
  · rintro later earlier j now op s₀ jar key rfl hearlier hjar hsaves hwrites hothers hsavers t ht hby
    obtain ⟨s₁, hcalled⟩ := SharedJar.after_of_append run
    have hact : s₀.act path (.call j now op) = some s₁ := by
      obtain ⟨s₀', hearlier', hact⟩ := Option.bind_eq_some_iff.mp hcalled
      rw [hearlier] at hearlier'
      cases hearlier'
      exact hact
    have hkeeps := (SharedJar.Keeps.of_call hact hjar hsaves hwrites ht).after hcalled run hothers
      hby hsavers
    obtain ⟨saver, hkind, hsaver⟩ := hkeeps.saver
    obtain ⟨copy, hcopy, hfile⟩ := hinv.saved saver hsaver
    exact ⟨copy, hfile, hkeeps.copies saver copy hkind hcopy⟩

/-- A store that is opened after another has written a key, and then writes one itself. -/
def laterOpened : List (JarTurn Bool) :=
  [.call true .least (.set "b" ⟨"B"⟩ defaultTtl), .opens true,
    .call false .least (.set "a" ⟨"A"⟩ defaultTtl), .opens false]

/-- The theorem at a store that is opened after another has written, whose key is kept. -/
theorem shared_file_is_last_savers_of_later :
    ∃ s fresh, SharedJar.after "jar.json" (.blank []) laterOpened = some s ∧
      FileJar.openAt "jar.json" s.disk = (.ok fresh, s.disk) ∧
      fresh.data.entries.get? "a" = some (.stamp ⟨"A"⟩ .least defaultTtl) := by
  obtain ⟨s, hrun⟩ := Option.isSome_iff_exists.mp
    (show (SharedJar.after "jar.json" (.blank []) laterOpened).isSome = true by decide +kernel)
  obtain ⟨-, -, hkept⟩ := shared_file_is_last_savers hrun
  obtain ⟨fresh, hfile, hshows⟩ := hkept [_, .opens true] [.opens false] false .least
    (.set "a" ⟨"A"⟩ defaultTtl) _ ⟨"jar.json", {}⟩ "a" rfl rfl rfl rfl rfl (by decide)
    (fun _ _ _ _ i _ => by cases i <;> simp [SharedJar.hold])
    .least (by decide) (by simp [JarTurn.IsBy]; decide)
  exact ⟨s, fresh, hrun, hfile, (hshows _ (by decide)).mpr rfl⟩

/-- Two stores that are opened before either has written. -/
def bothOpened : List (JarTurn Bool) :=
  [.call true .least (.set "b" ⟨"B"⟩ defaultTtl), .call false .least (.set "a" ⟨"A"⟩ defaultTtl),
    .opens true, .opens false]

/-- What one store has written is lost when another, opened before, writes a different key. -/
theorem shared_file_loses_write :
    ∃ s fresh, SharedJar.after "jar.json" (.blank []) bothOpened = some s ∧
      FileJar.openAt "jar.json" s.disk = (.ok fresh, s.disk) ∧
      fresh.data.entries.get? "b" = some (.stamp ⟨"B"⟩ .least defaultTtl) ∧
      fresh.data.entries.get? "a" = none := by
  obtain ⟨s, hrun⟩ := Option.isSome_iff_exists.mp
    (show (SharedJar.after "jar.json" (.blank []) bothOpened).isSome = true by decide +kernel)
  have hview : (SharedJar.after "jar.json" (.blank []) bothOpened).map (fun s =>
      (s.saver, (s.jars true).map (·.data.entries.entries))) =
        some (some true, some [("b", .stamp ⟨"B"⟩ .least defaultTtl)]) := by decide +kernel
  rw [hrun] at hview
  obtain ⟨hsaver, hjars⟩ := Prod.mk.inj (Option.some.inj hview)
  obtain ⟨jar, hjar, hfile⟩ := (SharedJar.inv_of_after hrun).saved true hsaver
  rw [hjar] at hjars
  have hentries : jar.data.entries.entries = _ := Option.some.inj hjars
  refine ⟨s, jar, hrun, hfile, ?_, ?_⟩ <;> rw [SortedMap.get?, hentries] <;> rfl

end BearerSession
