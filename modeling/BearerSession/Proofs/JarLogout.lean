import BearerSession.Proofs.JarFile
import BearerSession.Session.Login

namespace BearerSession

/-- What others make of the disk before each call of a store. They leave its file as it is. -/
structure Others (path : String) where
  act : Nat → Disk → Disk
  spare : ∀ n disk, (act n disk).node? path = disk.node? path

/-- A store in a file and the disk below it, the number of its calls so far, whether its latest save
failed, and the number of redirections. -/
structure JarSite where
  jar : FileJar
  disk : Disk
  calls : Nat := 0
  lapsed : Bool := false
  redirects : Nat := 0

inductive JarCall
  | set (key : String) (value : Secret) (ttl : Span)
  | remove (key : String)
  | logout

namespace JarSite

def saved (s : JarSite) (r : Except StoreError Unit × FileJar × Disk) : JarSite :=
  { s with jar := r.2.1, disk := r.2.2, calls := s.calls + 1, lapsed := !r.1.isOk }

section Calls

variable (clock : Nat → Instant) {path : String} (others : Others path)

def passed (s : JarSite) : JarSite :=
  { s with disk := others.act s.calls s.disk, calls := s.calls + 1 }

def set (s : JarSite) (key : String) (value : Secret) (ttl : Span) :
    Except StoreError Unit × JarSite :=
  let r := s.jar.set (clock s.calls) key value ttl (others.act s.calls s.disk)
  (r.1, s.saved r)

def remove (s : JarSite) (key : String) : Except StoreError Unit × JarSite :=
  let r := s.jar.remove (clock s.calls) key (others.act s.calls s.disk)
  -- Nothing is saved where there is nothing to remove.
  (r.1, if (s.jar.data.entries.get? key).isSome then s.saved r
    else { s.passed others with jar := r.2.1, disk := r.2.2 })

def store : Store (StateM JarSite) :=
  ⟨fun key s => (.ok (s.jar.get (clock s.calls) key), s.passed others),
    fun key value ttl s => s.set clock others key value ttl,
    fun key s => s.remove clock others key⟩

def redirect : StateM JarSite Unit := fun s => ((), { s with redirects := s.redirects + 1 })

def perform (keys : CredentialKeys) : JarCall → StateM JarSite (Except StoreError Unit)
  | .set key value ttl => (store clock others).set key value ttl
  | .remove key => (store clock others).remove key
  | .logout => logout (store clock others) ⟨fun _ => pure ()⟩ keys redirect

def performAll (keys : CredentialKeys) (calls : List JarCall) (s : JarSite) : JarSite :=
  calls.foldl (fun s call => ((perform clock others keys call).run s).2) s

end Calls

/-- Whether the running copy has an entry for one of the credentials, dead or alive. -/
def HasEntry (s : JarSite) (keys : CredentialKeys) : Prop :=
  s.jar.data.entries.get? keys.access ≠ none ∨ s.jar.data.entries.get? keys.refresh ≠ none

/-- What holds between calls: unless the latest save failed, the disk holds what the store holds. -/
structure Sound (path : String) (s : JarSite) : Prop where
  home : s.jar.path = path
  regular : s.jar.data.IsRegular
  held : s.lapsed = false → FileJar.NamesFile path → FileJar.Holds path s.disk s.jar.data

section Steps

variable {clock : Nat → Instant} {path : String} {others : Others path} {s : JarSite}
  {keys : CredentialKeys} {key : String}

theorem sound_saved (s : JarSite) {jar : FileJar} (hhome : jar.path = path)
    (hd : jar.data.IsRegular) (now : Instant) (disk : Disk) :
    Sound path (s.saved (jar.save now disk)) := by
  rcases jar.save_cases now disk hd with ⟨disk', hsave, -, hholds⟩ | ⟨e, hsave⟩
  · rw [hsave]
    exact ⟨hhome, hd.filter _, fun _ _ => hhome ▸ hholds⟩
  · rw [hsave]
    exact ⟨hhome, hd.filter _, fun hlapsed => by cases hlapsed⟩

/-- What others do between two calls does not matter. -/
theorem Sound.passed (h : s.Sound path) : Sound path (s.passed others) :=
  ⟨h.home, h.regular, fun hlapsed hname => (h.held hlapsed hname).congr (others.spare _ _)⟩

variable (clock others)

theorem Sound.set (h : s.Sound path) (key : String) (value : Secret) (ttl : Span) :
    Sound path (s.set clock others key value ttl).2 := by
  unfold JarSite.set FileJar.set
  dsimp only
  exact sound_saved s (by exact h.home) (h.regular.insert key (Instant.plus_isRegular _ _)) _ _

variable {clock others}

theorem remove_absent (hkey : s.jar.data.entries.get? key = none) :
    s.remove clock others key = (.ok (), s.passed others) := by
  unfold JarSite.remove FileJar.remove
  rw [hkey]
  rfl

theorem remove_present (hkey : s.jar.data.entries.get? key ≠ none) :
    s.remove clock others key =
      let jar := { s.jar with data := { s.jar.data with entries := s.jar.data.entries.erase key } }
      let r := jar.save (clock s.calls) (others.act s.calls s.disk)
      (r.1, s.saved r) := by
  unfold JarSite.remove FileJar.remove
  cases hentry : s.jar.data.entries.get? key with
  | none => exact absurd hentry hkey
  | some e => simp only [Option.isSome_some, if_true]

variable (clock others) in
theorem Sound.remove (h : s.Sound path) (key : String) :
    Sound path (s.remove clock others key).2 := by
  by_cases hkey : s.jar.data.entries.get? key = none
  · rw [remove_absent hkey]
    exact h.passed
  · rw [remove_present hkey]
    exact sound_saved s (by exact h.home) (h.regular.filter _) _ _

theorem save_jar (jar : FileJar) (now : Instant) (disk : Disk) :
    (jar.save now disk).2.1 = { jar with data := jar.data.prune now } := by
  unfold FileJar.save
  dsimp only
  split <;> rfl

variable (clock others) in
/-- After a removal neither the key nor any key that was absent has an entry. -/
theorem remove_forgets (s : JarSite) {key key' : String}
    (hkey : key' = key ∨ s.jar.data.entries.get? key' = none) :
    (s.remove clock others key).2.jar.data.entries.get? key' = none := by
  by_cases hpresent : s.jar.data.entries.get? key = none
  · rw [remove_absent hpresent]
    rcases hkey with rfl | hkey
    · exact hpresent
    · exact hkey
  · rw [remove_present hpresent]
    unfold saved
    dsimp only
    rw [save_jar]
    unfold JarData.prune
    dsimp only
    rw [SortedMap.get?_filter, SortedMap.get?_erase]
    rcases hkey with rfl | hkey
    · simp
    · simp [hkey]

theorem remove_lapsed (hkey : s.jar.data.entries.get? key ≠ none)
    (hok : (s.remove clock others key).1 = .ok ()) :
    (s.remove clock others key).2.lapsed = false := by
  rw [remove_present hkey] at hok ⊢
  unfold saved
  dsimp only at hok ⊢
  rw [hok]
  rfl

theorem remove_fails (hfailed : (s.remove clock others key).1.isOk = false) :
    (s.remove clock others key).2.disk.node? path = s.disk.node? path := by
  have hkept (jar : FileJar) (now : Instant) (disk : Disk)
      (h : (jar.save now disk).1.isOk = false) : (jar.save now disk).2.2 = disk := by
    unfold FileJar.save at *
    dsimp only at *
    split at h
    next => cases h
    next => rfl
  by_cases hkey : s.jar.data.entries.get? key = none
  · rw [remove_absent hkey] at hfailed
    cases hfailed
  · rw [remove_present hkey] at hfailed ⊢
    unfold saved
    dsimp only at hfailed ⊢
    rw [hkept _ _ _ hfailed]
    exact others.spare _ _

/-- A logout removes both credentials and redirects if both are removed. -/
theorem logout_run {s₁ s₂ : JarSite} {access refresh : Except StoreError Unit}
    (h₁ : s.remove clock others keys.access = (access, s₁))
    (h₂ : s₁.remove clock others keys.refresh = (refresh, s₂)) :
    (perform clock others keys .logout).run s =
      match access, refresh with
      | .ok (), .ok () => (.ok (), { s₂ with redirects := s₂.redirects + 1 })
      | .error e, _ => (.error e, s₂)
      | .ok (), .error e => (.error e, s₂) := by
  have hfirst : ((store clock others).remove keys.access).run s = (access, s₁) := h₁
  have hsecond : ((store clock others).remove keys.refresh).run s₁ = (refresh, s₂) := h₂
  unfold perform logout
  rw [StateT.run_bind, hfirst]
  show StateT.run (_ >>= _) s₁ = _
  rw [StateT.run_bind, hsecond]
  cases access <;> cases refresh <;> rfl

variable (clock others keys) in
/-- A logout of which no removal succeeds fails, and leaves the file as it was. -/
theorem logout_fails (s : JarSite)
    (haccess : (s.remove clock others keys.access).1.isOk = false)
    (hrefresh : ((s.remove clock others keys.access).2.remove clock others keys.refresh).1.isOk =
      false) :
    ∃ e s', (perform clock others keys .logout).run s = (.error e, s') ∧
      s'.disk.node? path = s.disk.node? path ∧
      s' = ((s.remove clock others keys.access).2.remove clock others keys.refresh).2 := by
  have hsame := (remove_fails hrefresh).trans (remove_fails haccess)
  cases h₁ : s.remove clock others keys.access with
  | mk access s₁ =>
    rw [h₁] at haccess hsame
    cases access with
    | ok => cases haccess
    | error e => exact ⟨e, _, logout_run h₁ rfl, hsame, rfl⟩

theorem logout_eq_ok {s' : JarSite}
    (h : (perform clock others keys .logout).run s = (.ok (), s')) :
    ∃ s₁ s₂, s.remove clock others keys.access = (.ok (), s₁) ∧
      s₁.remove clock others keys.refresh = (.ok (), s₂) ∧
      s' = { s₂ with redirects := s₂.redirects + 1 } := by
  cases h₁ : s.remove clock others keys.access with
  | mk access s₁ =>
    cases h₂ : s₁.remove clock others keys.refresh with
    | mk refresh s₂ =>
      rw [logout_run h₁ h₂] at h
      cases access with
      | error e => cases h
      | ok =>
        cases refresh with
        | error e => cases h
        | ok =>
          cases h
          exact ⟨s₁, s₂, rfl, h₂, rfl⟩

variable (clock others keys) in
theorem Sound.perform (h : s.Sound path) (call : JarCall) :
    Sound path ((JarSite.perform clock others keys call).run s).2 := by
  cases call with
  | set key value ttl => exact h.set clock others key value ttl
  | remove key => exact h.remove clock others key
  | logout =>
    have hboth := (h.remove clock others keys.access).remove clock others keys.refresh
    rw [logout_run rfl rfl]
    split
    next => exact ⟨hboth.home, hboth.regular, hboth.held⟩
    next => exact hboth
    next => exact hboth

theorem Sound.performAll (h : s.Sound path) (calls : List JarCall) :
    Sound path (JarSite.performAll clock others keys calls s) := by
  induction calls generalizing s with
  | nil => exact h
  | cons call calls ih => exact ih (h.perform clock others keys call)

theorem logout_forgets {s' : JarSite}
    (h : (perform clock others keys .logout).run s = (.ok (), s')) :
    s'.jar.data.entries.get? keys.access = none ∧ s'.jar.data.entries.get? keys.refresh = none := by
  obtain ⟨s₁, s₂, h₁, h₂, rfl⟩ := logout_eq_ok h
  have haccess : s₁.jar.data.entries.get? keys.access = none := by
    have hfirst := remove_forgets clock others s (.inl (Eq.refl keys.access))
    rwa [h₁] at hfirst
  have hboth (key : String) (hkey : key = keys.refresh ∨ s₁.jar.data.entries.get? key = none) :
      s₂.jar.data.entries.get? key = none := by
    have hsecond := remove_forgets clock others s₁ hkey
    rwa [h₂] at hsecond
  exact ⟨hboth keys.access (.inr haccess), hboth keys.refresh (.inl rfl)⟩

theorem logout_redirects {s' : JarSite}
    (h : (perform clock others keys .logout).run s = (.ok (), s')) :
    s'.redirects = s.redirects + 1 := by
  have hremove (s : JarSite) (key : String) :
      (s.remove clock others key).2.redirects = s.redirects := by
    unfold JarSite.remove
    dsimp only
    split <;> rfl
  obtain ⟨s₁, s₂, h₁, h₂, rfl⟩ := logout_eq_ok h
  have hfirst := hremove s keys.access
  have hsecond := hremove s₁ keys.refresh
  rw [h₁] at hfirst
  rw [h₂] at hsecond
  show s₂.redirects + 1 = _
  rw [hsecond, hfirst]

theorem logout_saves {s' : JarSite} (h : (perform clock others keys .logout).run s = (.ok (), s'))
    (hentry : s.HasEntry keys) : s'.lapsed = false := by
  obtain ⟨s₁, s₂, h₁, h₂, rfl⟩ := logout_eq_ok h
  have hok₁ := congrArg Prod.fst h₁
  have hok₂ := congrArg Prod.fst h₂
  show s₂.lapsed = false
  by_cases hrefresh : s₁.jar.data.entries.get? keys.refresh = none
  · -- The second removal saves nothing, so the first one had something to remove.
    have hlast : s₂ = s₁.passed others :=
      (congrArg Prod.snd h₂).symm.trans (congrArg Prod.snd (remove_absent hrefresh))
    rw [hlast]
    show s₁.lapsed = false
    by_cases haccess : s.jar.data.entries.get? keys.access = none
    · have hfirst : s₁ = s.passed others :=
        (congrArg Prod.snd h₁).symm.trans (congrArg Prod.snd (remove_absent haccess))
      rw [hfirst] at hrefresh
      exact absurd hrefresh (hentry.resolve_left (· haccess))
    · have hsaved := remove_lapsed haccess hok₁
      rwa [h₁] at hsaved
  · have hsaved := remove_lapsed hrefresh hok₂
    rwa [h₂] at hsaved

theorem logout_spares {s' : JarSite} (h : (perform clock others keys .logout).run s = (.ok (), s'))
    (hentry : ¬ s.HasEntry keys) :
    s'.lapsed = s.lapsed ∧ s'.disk.node? path = s.disk.node? path := by
  obtain ⟨haccess, hrefresh⟩ := not_or.mp hentry
  have haccess : s.jar.data.entries.get? keys.access = none := Decidable.not_not.mp haccess
  have hrefresh : (s.passed others).jar.data.entries.get? keys.refresh = none :=
    Decidable.not_not.mp hrefresh
  rw [logout_run (remove_absent haccess) (remove_absent hrefresh)] at h
  cases h
  exact ⟨rfl, (others.spare _ _).trans (others.spare _ _)⟩

end Steps

theorem Sound.of_open {disk disk' : Disk} {jar : FileJar} {path : String}
    (base : disk.at? disk.base = some .directory)
    (opened : FileJar.openAt path disk = (.ok jar, disk')) :
    JarSite.Sound path { jar, disk := disk' } := by
  obtain ⟨-, hhome, -⟩ := FileJar.openAt_eq_ok_iff.mp opened
  refine ⟨hhome, ?_, fun _ hname => FileJar.openAt_holds base hname opened⟩
  rcases FileJar.openAt_cases opened with hempty | ⟨-, hholds⟩
  · exact hempty ▸ .empty
  · exact hholds.isRegular

/-- A store that is opened where the disk holds what another one holds finds no more than it. -/
theorem openAt_forgets {s : JarSite} {path key : String} {fresh : FileJar} {disk' : Disk}
    (held : FileJar.NamesFile path → FileJar.Holds path s.disk s.jar.data)
    (forgot : s.jar.data.entries.get? key = none)
    (opened : FileJar.openAt path s.disk = (.ok fresh, disk')) (t : Instant) :
    fresh.get t key = none := by
  have hentry : fresh.data.entries.get? key = none := by
    rcases FileJar.openAt_cases opened with hempty | ⟨hname, hholds⟩
    · rw [hempty]
      rfl
    · rw [hholds.unique (held hname)]
      exact forgot
  unfold FileJar.get
  rw [hentry]
  rfl

end JarSite

/-- Whenever a logout returns success it has redirected once more. A store freshly opened at the
path then finds neither credential, if the running store still had an entry for one of them or its
latest save had not failed, and it can be opened wherever the file can be written; otherwise the
logout has left the file as it was. -/
theorem logout_clears_file (clock : Nat → Instant) {path : String} (others : Others path)
    (keys : CredentialKeys) {disk disk' : Disk} {jar : FileJar}
    (base : disk.at? disk.base = some .directory)
    (opened : FileJar.openAt path disk = (.ok jar, disk')) (calls : List JarCall)
    {before after : JarSite}
    (run : JarSite.performAll clock others keys calls { jar, disk := disk' } = before)
    (logout : (JarSite.perform clock others keys .logout).run before = (.ok (), after)) :
    after.redirects = before.redirects + 1 ∧
      (before.HasEntry keys ∨ before.lapsed = false →
        (∀ fresh disk'', FileJar.openAt path after.disk = (.ok fresh, disk'') →
          ∀ t, fresh.get t keys.access = none ∧ fresh.get t keys.refresh = none) ∧
        (after.disk.IsWritable path FileJar.mode →
          ∃ fresh, FileJar.openAt path after.disk = (.ok fresh, after.disk))) ∧
      (¬ before.HasEntry keys → before.lapsed = true →
        after.disk.node? path = before.disk.node? path) := by
  have hbefore : before.Sound path := run ▸ (JarSite.Sound.of_open base opened).performAll calls
  have hafter : after.Sound path := by
    have hsound := hbefore.perform clock others keys .logout
    rwa [logout] at hsound
  obtain ⟨haccess, hrefresh⟩ := JarSite.logout_forgets logout
  refine ⟨JarSite.logout_redirects logout, fun hdone => ?_, fun hentry _ => ?_⟩
  · have hcurrent : after.lapsed = false := by
      by_cases hentry : before.HasEntry keys
      · exact JarSite.logout_saves logout hentry
      · exact (JarSite.logout_spares logout hentry).1.trans (hdone.resolve_left hentry)
    have hheld := hafter.held hcurrent
    refine ⟨fun fresh disk'' hopen t => ?_, fun hw => ?_⟩
    · exact ⟨JarSite.openAt_forgets hheld haccess hopen t,
        JarSite.openAt_forgets hheld hrefresh hopen t⟩
    · exact ⟨_, (hheld (FileJar.namesFile_of_isWritable hw)).openAt hw⟩
  · exact (JarSite.logout_spares logout hentry).2

def Others.none (path : String) : Others path := ⟨fun _ disk => disk, fun _ _ => rfl⟩

section Runs

variable {path : String} (others : Others path)

/-- A store that has saved what a login grants. -/
def savedPair (disk : Disk) : JarSite :=
  .performAll (fun _ => .least) others {}
    [.set "accessToken" ⟨"a"⟩ defaultTtl, .set "refreshToken" ⟨"r"⟩ defaultTtl]
    { jar := ⟨path, {}⟩, disk }

def logoutAt (s : JarSite) : Except StoreError Unit × JarSite :=
  (JarSite.perform (fun _ => .least) others {} .logout).run s

variable {others}

theorem logoutAt_eq_ok {s : JarSite} (h : (logoutAt others s).1.isOk = true) :
    (JarSite.perform (fun _ => .least) others {} .logout).run s =
      (.ok (), (logoutAt others s).2) := by
  unfold logoutAt at *
  cases hrun : (JarSite.perform (fun _ => .least) others {} .logout).run s with
  | mk result s' =>
    rw [hrun] at h
    cases result with
    | error e => cases h
    | ok => rfl

end Runs

/-- The theorem at what a login has saved. -/
theorem logout_clears_file_of_saved :
    ∃ after, logoutAt (.none "jar.json") (savedPair (.none "jar.json") (.blank [])) =
        (.ok (), after) ∧
      (savedPair (.none "jar.json") (.blank [])).HasEntry {} ∧ after.redirects = 1 ∧
      ∃ fresh, FileJar.openAt "jar.json" after.disk = (.ok fresh, after.disk) ∧
        fresh.get .least "accessToken" = none ∧ fresh.get .least "refreshToken" = none := by
  have hopen : FileJar.openAt "jar.json" (.blank []) = (.ok ⟨"jar.json", {}⟩, .blank []) := rfl
  have hlogout := logoutAt_eq_ok (show (logoutAt (.none "jar.json")
    (savedPair (.none "jar.json") (.blank []))).1.isOk = true by decide +kernel)
  have hentry : (savedPair (.none "jar.json") (.blank [])).HasEntry {} := .inl (by decide +kernel)
  obtain ⟨hredirects, hcleared, -⟩ := logout_clears_file (fun _ => .least) (.none "jar.json") {}
    rfl hopen _ rfl hlogout
  obtain ⟨hfresh, hopens⟩ := hcleared (.inl hentry)
  obtain ⟨fresh, hopen⟩ := hopens (by decide +kernel)
  exact ⟨_, hlogout, hentry, hredirects, fresh, hopen, hfresh fresh _ hopen _⟩

/-- Others who take a directory away that the path leads through, and put it back later. -/
def vanishingDirectory : Others "/sub/../jar.json" where
  act n disk :=
    if n = 2 then disk.erase "/sub" else if n = 4 then disk.put ["sub"] .directory else disk
  spare n disk := by
    have hresolve (base : Location) : Path.resolve base "/sub/../jar.json" = ["jar.json"] := rfl
    have hkey : Disk.key (Path.resolve disk.base "/sub") = "/sub" := rfl
    unfold Disk.node?
    rw [hresolve, hresolve]
    split
    next =>
      have hbelow : ("/jar.json".startsWith "/sub/") = false := by decide +kernel
      unfold Disk.erase
      rw [hkey]
      show (SortedMap.filter _ disk.nodes).get? "/jar.json" = disk.nodes.get? "/jar.json"
      rw [SortedMap.get?_filter]
      cases disk.nodes.get? "/jar.json" with
      | none => rfl
      | some node => exact if_pos (by simp [hbelow])
    next =>
      split
      · show (disk.nodes.insert "/sub" .directory).get? "/jar.json" = _
        rw [SortedMap.get?_insert]
        rfl
      · rfl

/-- A logout that could not save is tried again, and returns success and redirects while the file
holds both credentials. -/
theorem retried_logout_keeps_file :
    ∃ e between after,
      logoutAt vanishingDirectory
          (savedPair vanishingDirectory ((Disk.blank []).put ["sub"] .directory)) =
        (.error e, between) ∧
      logoutAt vanishingDirectory between = (.ok (), after) ∧ after.redirects = 1 ∧
      ∃ fresh, FileJar.openAt "/sub/../jar.json" after.disk = (.ok fresh, after.disk) ∧
        fresh.get .least "accessToken" = some ⟨"a"⟩ ∧
        fresh.get .least "refreshToken" = some ⟨"r"⟩ := by
  have hopen : FileJar.openAt "/sub/../jar.json" ((Disk.blank []).put ["sub"] .directory) =
      (.ok ⟨"/sub/../jar.json", {}⟩, (Disk.blank []).put ["sub"] .directory) := rfl
  have hsound : (savedPair vanishingDirectory ((Disk.blank []).put ["sub"] .directory)).Sound
      "/sub/../jar.json" := (JarSite.Sound.of_open rfl hopen).performAll _
  have hheld := hsound.held (by decide +kernel) ⟨by decide +kernel, by decide +kernel⟩
  obtain ⟨e, between, hfailed, hsame, hbetween⟩ := JarSite.logout_fails (fun _ => .least)
    vanishingDirectory {} (savedPair vanishingDirectory ((Disk.blank []).put ["sub"] .directory))
    (by decide +kernel) (by decide +kernel)
  have hlogout := logoutAt_eq_ok (show (logoutAt vanishingDirectory between).1.isOk = true by
    rw [hbetween]; decide +kernel)
  -- The file still holds what the login saved, since neither logout has saved anything.
  have hforgot : ¬ between.HasEntry {} :=
    hbetween ▸ not_or.mpr ⟨by decide +kernel, by decide +kernel⟩
  have hlater := (JarSite.logout_spares hlogout hforgot).2.trans hsame
  have hwritable : (logoutAt vanishingDirectory between).2.disk.IsWritable "/sub/../jar.json"
      FileJar.mode := by
    rw [hbetween]
    decide +kernel
  have hredirects : (logoutAt vanishingDirectory between).2.redirects = 1 := by
    rw [hbetween]
    decide +kernel
  exact ⟨e, between, _, hfailed, hlogout, hredirects, _, (hheld.congr hlater).openAt hwritable,
    by decide +kernel, by decide +kernel⟩

end BearerSession
