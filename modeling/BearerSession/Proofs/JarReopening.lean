import BearerSession.Proofs.ExpiringMap
import BearerSession.Proofs.JarFile

namespace BearerSession

namespace Disk

variable {d d' : Disk} {l : Location} {parts : List (List Char)}

/-- Directories are made once. -/
theorem makeSteps_again (h : d.makeSteps l parts = .ok d') : d'.makeSteps l parts = .ok d' := by
  induction parts generalizing d l with
  | nil => rfl
  | cons part parts ih =>
    rw [makeSteps] at h
    have hmade : d'.at? (Path.step l part) = some .directory ∧
        d'.makeSteps (Path.step l part) parts = .ok d' := by
      split at h
      next hdir => exact ⟨directory_of_makeSteps h hdir, ih h⟩
      next hnone =>
        have hput : (d.put (Path.step l part) .directory).at? (Path.step l part) =
            some .directory := at?_put_self (by rw [hnone]; exact (Option.some_ne_none _).symm)
        exact ⟨directory_of_makeSteps h hput, ih h⟩
      next => cases h
    rw [makeSteps, hmade.1]
    exact hmade.2

theorem file_makeSteps_iff (h : d.makeSteps l parts = .ok d') (y : Location) (content : Content)
    (mode : Nat) : d'.at? y = some (.file content mode) ↔ d.at? y = some (.file content mode) := by
  rcases at?_makeSteps h y with hsame | ⟨hnone, hmade⟩
  · rw [hsame]
  · rw [hnone, hmade]
    exact iff_of_false nofun nofun

section Replacing

variable {path content : String} {mode : Nat}

theorem isWritable_of_replaceFile (h : d.replaceFile path content mode = .ok d') :
    d'.IsWritable path mode := by
  obtain ⟨hlook, hpath, hname, hplace, -⟩ := replaceFile_eq_ok_iff.mp h
  have hw : d.IsWritable path mode :=
    ⟨_, replaceFile_eq_ok_iff.mpr ⟨hlook, hpath, hname, hplace, rfl⟩⟩
  obtain ⟨made, hmade, hstays⟩ := hw.replaceFile content
  rw [h] at hmade
  cases hmade
  exact hstays

theorem readText_replaceFile (h : d.replaceFile path content mode = .ok d') :
    d'.readText path = .ok content := by
  obtain ⟨-, hpath, hname, hplace, hput⟩ := replaceFile_eq_ok_iff.mp h
  obtain ⟨-, hfollow⟩ := (isWritable_of_replaceFile h).reaches
  have hnode : d'.node? path = some (.file (.text content) mode) := by
    rw [hput]
    exact at?_put_self hplace
  exact readText_eq_ok_iff.mpr ⟨mode, look_eq_file_iff.mpr ⟨hpath, hname, hfollow, hnode⟩⟩

end Replacing

end Disk

namespace JarData

theorem get?_prune (d : JarData) (now : Instant) (key : String) :
    (d.prune now).entries.get? key =
      (d.entries.get? key).filter fun entry => now < entry.expiresAt :=
  SortedMap.get?_filter _ _ _

theorem prune_prune (d : JarData) {now t : Instant} (ht : ¬ t < now) :
    (d.prune now).prune t = d.prune t := by
  unfold prune
  dsimp only
  congr 1
  refine SortedMap.ext_get? fun key => ?_
  rw [SortedMap.get?_filter, SortedMap.get?_filter, SortedMap.get?_filter, Option.filter_filter]
  congr 1
  funext e
  have hlive : e.isLive t = true → e.isLive now = true := by
    intro hlt
    exact decide_eq_true (Instant.lt_of_not_lt_of_lt ht (of_decide_eq_true hlt))
  cases hnow : e.isLive now with
  | true => simp
  | false =>
    have hdead : e.isLive t = false := by simpa [hnow] using hlive
    simp [hdead]

end JarData

/-- What a call makes of entries of which none is dropped for its age. -/
def StoreOp.apply (now : Instant) (entries : SortedMap StoredEntry) :
    StoreOp → SortedMap StoredEntry
  | .set key value ttl => entries.insert key (.stamp value now ttl)
  | .remove key => entries.erase key
  | .get _ | .has _ => entries

def entriesAfter (start : SortedMap StoredEntry) : StoreHistory → SortedMap StoredEntry
  | [] => start
  | (now, op) :: past => op.apply now (entriesAfter start past)

theorem StoreOp.get?_apply (op : StoreOp) (now : Instant) (entries : SortedMap StoredEntry)
    (key : String) :
    (op.apply now entries).get? key =
      if op.writes key then lastWrite key [(now, op)] else entries.get? key := by
  cases op with
  | get => rfl
  | has => rfl
  | set key' value ttl =>
    by_cases hk : key = key'
    · subst hk
      simp [StoreOp.apply, StoreOp.writes, lastWrite]
    · simp [StoreOp.apply, StoreOp.writes, hk, Ne.symm hk]
  | remove key' =>
    by_cases hk : key = key'
    · subst hk
      simp [StoreOp.apply, StoreOp.writes, lastWrite]
    · simp [StoreOp.apply, StoreOp.writes, hk, Ne.symm hk]

/-- A key holds the result of its latest write, if there was one. -/
theorem get?_entriesAfter (start : SortedMap StoredEntry) (past : StoreHistory) (key : String) :
    (entriesAfter start past).get? key =
      if past.any (·.2.writes key) then lastWrite key past else start.get? key := by
  induction past with
  | nil => rfl
  | cons u past ih =>
    obtain ⟨now, op⟩ := u
    rw [entriesAfter, StoreOp.get?_apply, List.any_cons]
    cases hw : op.writes key with
    | true => simp [lastWrite, hw]
    | false => rw [if_neg Bool.false_ne_true, ih, Bool.false_or, lastWrite_other hw]

/-- The data after calls, of which no entry is dropped for its age. -/
def JarData.withCalls (d : JarData) (past : StoreHistory) : JarData :=
  { d with entries := entriesAfter d.entries past }

theorem JarData.prune_apply {d d' : JarData} {now t : Instant} (h : d.prune t = d'.prune t)
    (op : StoreOp) :
    prune { d with entries := op.apply now d.entries } t =
      prune { d' with entries := op.apply now d'.entries } t := by
  obtain ⟨hversion, hentries⟩ := JarData.mk.inj h
  have hget : ∀ key, (d.entries.get? key).filter (fun e => e.isLive t) =
      (d'.entries.get? key).filter fun e => e.isLive t := by
    intro key
    have hkey := congrArg (fun m => SortedMap.get? m key) hentries
    simpa only [SortedMap.get?_filter] using hkey
  unfold prune
  dsimp only
  rw [hversion]
  congr 1
  refine SortedMap.ext_get? fun key => ?_
  rw [SortedMap.get?_filter, SortedMap.get?_filter, StoreOp.get?_apply, StoreOp.get?_apply]
  split
  next => rfl
  next => exact hget key

namespace FileJar

variable {path : String} {disk disk' : Disk} {jar jar' : FileJar} {now : Instant} {op : StoreOp}
  {reply : StoreReply} {found : JarData} {past : StoreHistory}

/-- The calls of a store at some time. -/
def calls (now : Instant) : Store (StateM (FileJar × Disk)) :=
  ⟨fun key s => (.ok (s.1.get now key), s), fun key value ttl s => s.1.set now key value ttl s.2,
    fun key s => s.1.remove now key s.2⟩

/-- Whether a call saves: a removal does so where there is an entry to remove, dead or alive. -/
def saves (jar : FileJar) : StoreOp → Bool
  | .set _ _ _ => true
  | .remove key => (jar.data.entries.get? key).isSome
  | .get _ | .has _ => false

/-- A store and the disk below it after calls that all succeed. -/
def after (s : FileJar × Disk) : StoreHistory → Option (FileJar × Disk)
  | [] => some s
  | (now, op) :: past => do
    match op.perform (calls now) (← after s past) with
    | (.ok _, s) => some s
    | (.error _, _) => none

theorem save_map {α : Type} {r : Except StoreError Unit × FileJar × Disk} {f : Unit → α} {a : α}
    (h : (r.1.map f, r.2) = (.ok a, jar', disk')) : r = (.ok (), jar', disk') := by
  obtain ⟨result, rest⟩ := r
  cases result with
  | error e => cases h
  | ok u =>
    cases h
    rfl

/-- A call that succeeds saves its change, or leaves the store and the disk as they are. -/
theorem call_cases (h : op.perform (calls now) (jar, disk) = (.ok reply, jar', disk')) :
    jar.saves op = false ∧ jar' = jar ∧ disk' = disk ∨
      jar.saves op = true ∧
        save { jar with data := { jar.data with entries := op.apply now jar.data.entries } } now disk =
          (.ok (), jar', disk') := by
  cases op with
  | get key =>
    cases h
    exact .inl ⟨rfl, rfl, rfl⟩
  | has key =>
    cases h
    exact .inl ⟨rfl, rfl, rfl⟩
  | set key value ttl => exact .inr ⟨rfl, save_map h⟩
  | remove key =>
    have hremove : jar.remove now key disk = (.ok (), jar', disk') := save_map h
    have hsaves : jar.saves (.remove key) = (jar.data.entries.get? key).isSome := rfl
    unfold remove at hremove
    rw [hsaves]
    cases hentry : jar.data.entries.get? key with
    | none =>
      rw [hentry] at hremove
      cases hremove
      exact .inl ⟨rfl, rfl, rfl⟩
    | some e =>
      rw [hentry] at hremove
      exact .inr ⟨rfl, hremove⟩

theorem save_data (h : jar.save now disk = (.ok (), jar', disk')) :
    jar'.data = jar.data.prune now := by
  unfold save at h
  dsimp only at h
  split at h <;> cases h
  rfl

theorem save_eq_ok (hd : jar.data.IsRegular) (h : jar.save now disk = (.ok (), jar', disk')) :
    jar' = { jar with data := jar.data.prune now } ∧
      openAt jar.path disk' = (.ok jar', disk') ∧
      ∃ s, disk'.readText jar.path = .ok s ∧ JarData.ofText s = .ok jar'.data := by
  unfold save at h
  dsimp only at h
  split at h
  next made hreplace =>
    cases h
    have hread := Disk.readText_replaceFile hreplace
    have hdata : JarData.ofText (jar.data.prune now).encode.pretty = .ok (jar.data.prune now) :=
      (hd.filter _).ofText_pretty
    obtain ⟨hmade, -⟩ := (Disk.isWritable_of_replaceFile hreplace).reaches
    exact ⟨rfl, openAt_eq_ok_iff.mpr ⟨hmade, rfl, .inr ⟨_, hread, hdata⟩⟩, _, hread, hdata⟩
  next => cases h

/-- A store that was opened would be opened once more as it is. -/
theorem openAt_again (h : openAt path disk = (.ok jar, disk')) :
    openAt path disk' = (.ok jar, disk') := by
  obtain ⟨hmade, hpath, hdata⟩ := openAt_eq_ok_iff.mp h
  have hbase : disk'.base = disk.base := Disk.base_makeSteps hmade
  refine openAt_eq_ok_iff.mpr ⟨?_, hpath, hdata⟩
  unfold Disk.makeDirectories at *
  rw [hbase]
  exact Disk.makeSteps_again hmade

theorem openAt_isRegular (h : openAt path disk = (.ok jar, disk')) : jar.data.IsRegular := by
  rcases openAt_cases h with hempty | ⟨-, hholds⟩
  · rw [hempty]
    exact .empty
  · exact hholds.isRegular

/-- Whether a store holds what calls made of the data that it found, but for entries that have died
before the latest of them. -/
structure Tracks (found : JarData) (past : StoreHistory) (jar : FileJar) : Prop where
  regular : jar.data.IsRegular
  version : jar.data.version = found.version
  agrees : ∀ t, (∀ u ∈ past, ¬ t < u.1) → jar.data.prune t = (found.withCalls past).prune t

theorem Tracks.of_openAt (h : openAt path disk = (.ok jar, disk')) : Tracks jar.data [] jar :=
  ⟨openAt_isRegular h, rfl, fun _ _ => rfl⟩

theorem isRegular_apply (h : jar.data.IsRegular) (now : Instant) (op : StoreOp) :
    JarData.IsRegular { jar.data with entries := op.apply now jar.data.entries } := by
  cases op with
  | get => exact h
  | has => exact h
  | set key value ttl => exact h.insert key (Instant.plus_isRegular now ttl)
  | remove key => exact h.filter _

/-- Whether it saves or not, what lives after a call is what the call makes of what lived. -/
theorem call_prune (h : op.perform (calls now) (jar, disk) = (.ok reply, jar', disk')) {t : Instant}
    (ht : ¬ t < now) :
    jar'.data.prune t =
      JarData.prune { jar.data with entries := op.apply now jar.data.entries } t := by
  rcases call_cases h with ⟨hsaves, rfl, -⟩ | ⟨-, hsave⟩
  · -- A removal of what is not there changes nothing.
    have hsame : op.apply now jar'.data.entries = jar'.data.entries := by
      cases op with
      | get => rfl
      | has => rfl
      | set => cases hsaves
      | remove key =>
        have hnone : jar'.data.entries.get? key = none := Option.not_isSome_iff_eq_none.mp
          (by simpa [saves] using hsaves)
        refine SortedMap.ext_get? fun key' => ?_
        rw [StoreOp.apply, SortedMap.get?_erase]
        split
        next heq => rw [heq, hnone]
        next => rfl
    rw [hsame]
  · have hdata := save_data hsave
    rw [hdata]
    exact JarData.prune_prune _ ht

/-- What a call that succeeds leaves: a store that still tracks its calls, and, if it was saved, a
file that holds its data. -/
theorem Tracks.call (htracks : Tracks found past jar)
    (h : op.perform (calls now) (jar, disk) = (.ok reply, jar', disk')) :
    Tracks found ((now, op) :: past) jar' ∧ jar'.path = jar.path ∧
      (jar.saves op = true → openAt jar.path disk' = (.ok jar', disk') ∧
        ∃ s, disk'.readText jar.path = .ok s ∧ JarData.ofText s = .ok jar'.data) ∧
      (jar.saves op = false → jar' = jar ∧ disk' = disk) := by
  have hagrees : ∀ t, (∀ u ∈ (now, op) :: past, ¬ t < u.1) →
      jar'.data.prune t = (found.withCalls ((now, op) :: past)).prune t := by
    intro t ht
    have hbefore := htracks.agrees t fun u hu => ht u (List.mem_cons_of_mem _ hu)
    exact (call_prune h (ht _ List.mem_cons_self)).trans (JarData.prune_apply hbefore op)
  rcases call_cases h with ⟨hsaves, rfl, rfl⟩ | ⟨hsaves, hsave⟩
  · exact ⟨⟨htracks.regular, htracks.version, hagrees⟩, rfl, by simp [hsaves],
      fun _ => ⟨rfl, rfl⟩⟩
  · have hregular := isRegular_apply htracks.regular now op
    obtain ⟨rfl, hopen, hfile⟩ := save_eq_ok hregular hsave
    exact ⟨⟨hregular.filter fun e => e.2.isLive now, htracks.version, hagrees⟩, rfl,
      fun _ => ⟨hopen, hfile⟩, by simp [hsaves]⟩

theorem after_cons {s s' : FileJar × Disk} (h : after s ((now, op) :: past) = some s') :
    ∃ jar disk reply, after s past = some (jar, disk) ∧
      op.perform (calls now) (jar, disk) = (.ok reply, s') := by
  obtain ⟨⟨jar, disk⟩, hpast, hcall⟩ := Option.bind_eq_some_iff.mp h
  cases hperform : op.perform (calls now) (jar, disk) with
  | mk result last =>
    rw [hperform] at hcall
    cases result with
    | error e => cases hcall
    | ok reply =>
      cases hcall
      exact ⟨jar, disk, reply, hpast, hperform⟩

/-- Between calls the disk holds what the store holds. -/
theorem openAt_after {jar₀ : FileJar} {disk₀ : Disk} (opened : openAt path disk = (.ok jar₀, disk₀))
    (run : after (jar₀, disk₀) past = some (jar, disk')) :
    openAt path disk' = (.ok jar, disk') ∧ Tracks jar₀.data past jar := by
  induction past generalizing jar disk' with
  | nil =>
    cases run
    exact ⟨openAt_again opened, .of_openAt opened⟩
  | cons u past ih =>
    obtain ⟨now, op⟩ := u
    obtain ⟨earlier, disk₁, reply, hpast, hcall⟩ := after_cons run
    obtain ⟨hopen, htracks⟩ := ih hpast
    have hpath : earlier.path = path := (openAt_eq_ok_iff.mp hopen).2.1
    obtain ⟨htracks', -, hsaved, hspared⟩ := htracks.call hcall
    refine ⟨?_, htracks'⟩
    cases hsaves : earlier.saves op with
    | true => exact hpath ▸ (hsaved hsaves).1
    | false =>
      obtain ⟨rfl, rfl⟩ := hspared hsaves
      exact hopen

end FileJar

/-- A store is opened, at a file or where there is none, and called, and every save succeeds. Then
no file has changed by the opening, and at every point the store opened again at its path is the
running store, with the version that was read. A call that saves leaves in the file what lives of
the entries as all calls have made them, and any other call leaves the disk as it is. -/
theorem reopened_jar_is_running_jar {path : String} {disk disk₀ disk₁ : Disk} {jar₀ jar : FileJar}
    (opened : FileJar.openAt path disk = (.ok jar₀, disk₀)) {past : StoreHistory}
    (run : FileJar.after (jar₀, disk₀) past = some (jar, disk₁)) :
    (∀ l content mode,
      disk₀.at? l = some (.file content mode) ↔ disk.at? l = some (.file content mode)) ∧
    (disk₀.exists? path = false ∧ jar₀.data = ⟨1, .empty⟩ ∨
      ∃ s, disk₀.readText path = .ok s ∧ JarData.ofText s = .ok jar₀.data) ∧
    FileJar.openAt path disk₁ = (.ok jar, disk₁) ∧ jar.data.version = jar₀.data.version ∧
    ∀ now op reply jar' disk₂, (∀ u ∈ past, ¬ now < u.1) →
      op.perform (FileJar.calls now) (jar, disk₁) = (.ok reply, jar', disk₂) →
      if jar.saves op then
        ∃ s data, disk₂.readText path = .ok s ∧ JarData.ofText s = .ok data ∧
          data.version = jar₀.data.version ∧
          ∀ key, data.entries.get? key =
            ((entriesAfter jar₀.data.entries ((now, op) :: past)).get? key).filter
              fun entry => now < entry.expiresAt
      else disk₂ = disk₁ := by
  obtain ⟨hmade, -, horigin⟩ := FileJar.openAt_eq_ok_iff.mp opened
  obtain ⟨hopen, htracks⟩ := FileJar.openAt_after opened run
  refine ⟨Disk.file_makeSteps_iff hmade, horigin, hopen, htracks.version, ?_⟩
  intro now op reply jar' disk₂ hlatest hcall
  obtain ⟨htracks', -, hsaved, hspared⟩ := htracks.call hcall
  have hpath : jar.path = path := (FileJar.openAt_eq_ok_iff.mp hopen).2.1
  split
  next hsaves =>
    obtain ⟨-, s, hread, hs⟩ := hsaved hsaves
    refine ⟨s, jar'.data, hpath ▸ hread, hs, htracks'.version, fun key => ?_⟩
    have hnow : ∀ u ∈ (now, op) :: past, ¬ now < u.1 := by
      intro u hu
      rcases List.mem_cons.mp hu with rfl | hu
      · exact Instant.not_lt_self _
      · exact hlatest u hu
    -- What was just saved has no dead entries left.
    have hlive : jar'.data.prune now = jar'.data := by
      rcases FileJar.call_cases hcall with ⟨hnone, -⟩ | ⟨-, hsave⟩
      · rw [hsaves] at hnone
        cases hnone
      · rw [FileJar.save_data hsave]
        exact JarData.prune_prune _ (Instant.not_lt_self now)
    rw [← hlive, htracks'.agrees now hnow]
    exact JarData.get?_prune _ now key
  next hsaves => exact (hspared (Bool.eq_false_iff.mpr hsaves)).2

/-- Data of which one entry has died. -/
def agedData : JarData :=
  ⟨3, SortedMap.insert (SortedMap.insert .empty "kept" ⟨⟨"k"⟩, .greatest⟩) "old" ⟨⟨"o"⟩, .least⟩⟩

def agedDisk : Disk :=
  (Disk.blank []).put ["jar.json"] (.file (.text agedData.encode.pretty) 0o644)

theorem agedData_isRegular : agedData.IsRegular := by
  have hkept : JarData.IsRegular ⟨3, SortedMap.insert .empty "kept" ⟨⟨"k"⟩, .greatest⟩⟩ :=
    JarData.IsRegular.insert (d := ⟨3, .empty⟩) (fun _ _ h => nomatch h) "kept"
      fun hleap => absurd hleap (by decide)
  exact hkept.insert "old" fun hleap => absurd hleap (by decide)

/-- The theorem at a file with a dead entry, which goes when another key is written. -/
theorem reopened_jar_is_running_jar_of_aged :
    FileJar.openAt "jar.json" agedDisk = (.ok ⟨"jar.json", agedData⟩, agedDisk) ∧
    ∃ jar disk₁, FileJar.after (⟨"jar.json", agedData⟩, agedDisk) [(.least, .remove "none")] =
        some (jar, disk₁) ∧
      FileJar.openAt "jar.json" disk₁ = (.ok jar, disk₁) ∧ jar.data.version = 3 ∧
      ∃ jar' disk₂, (StoreOp.set "new" ⟨"n"⟩ defaultTtl).perform (FileJar.calls .least)
          (jar, disk₁) = (.ok .done, jar', disk₂) ∧
        ∃ s data, disk₂.readText "jar.json" = .ok s ∧ JarData.ofText s = .ok data ∧
          data.version = 3 ∧ data.entries.keys = ["kept", "new"] := by
  have hopen : FileJar.openAt "jar.json" agedDisk = (.ok ⟨"jar.json", agedData⟩, agedDisk) :=
    FileJar.openAt_eq_ok_iff.mpr ⟨rfl, rfl, .inr ⟨_, rfl, agedData_isRegular.ofText_pretty⟩⟩
  have hrun : FileJar.after (⟨"jar.json", agedData⟩, agedDisk) [(.least, .remove "none")] =
      some (⟨"jar.json", agedData⟩, agedDisk) := rfl
  obtain ⟨-, -, hagain, hversion, hsaves⟩ := reopened_jar_is_running_jar hopen hrun
  refine ⟨hopen, _, _, hrun, hagain, hversion, _, _, rfl, ?_⟩
  obtain ⟨s, data, hread, hs, hkept, hentries⟩ :=
    hsaves .least (.set "new" ⟨"n"⟩ defaultTtl) .done _ _ (by decide) rfl
  let made : JarData := agedData.withCalls
    [(.least, .set "new" ⟨"n"⟩ defaultTtl), (.least, .remove "none")]
  have hlive : data.entries = (made.prune .least).entries :=
    SortedMap.ext_get? fun key => (hentries key).trans (made.get?_prune .least key).symm
  refine ⟨s, data, hread, hs, hkept, ?_⟩
  rw [hlive]
  decide +kernel

end BearerSession
