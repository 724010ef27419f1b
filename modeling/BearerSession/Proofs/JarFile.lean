import BearerSession.Proofs.DiskPath
import BearerSession.Proofs.JarText

namespace BearerSession

namespace Disk

variable {d d' : Disk} {path : String} {l y : Location}

theorem at?_put_missing (hl : d.at? l = none) (y : Location) :
    (d.put l .directory).at? y = d.at? y ∨
      d.at? y = none ∧ (d.put l .directory).at? y = some .directory := by
  unfold at? at *
  split
  next => exact .inl rfl
  next hy =>
    split at hl
    next => cases hl
    next =>
      show (d.nodes.insert (key l) .directory).get? (key y) = _ ∨
        _ ∧ (d.nodes.insert (key l) .directory).get? (key y) = _
      rw [SortedMap.get?_insert]
      split
      next hkey => exact .inr ⟨hkey ▸ hl, rfl⟩
      next => exact .inl rfl

/-- Making directories changes nothing but places where nothing stood. -/
theorem at?_makeSteps {parts : List (List Char)} (h : d.makeSteps l parts = .ok d')
    (y : Location) : d'.at? y = d.at? y ∨ d.at? y = none ∧ d'.at? y = some .directory := by
  induction parts generalizing d l with
  | nil =>
    cases h
    exact .inl rfl
  | cons part parts ih =>
    rw [makeSteps] at h
    split at h
    next => exact ih h
    next hnone =>
      rcases ih h with hsame | ⟨hmissing, hmade⟩
      · rw [hsame]
        exact at?_put_missing hnone y
      · rcases at?_put_missing hnone y with hput | ⟨-, hput⟩
        · exact .inr ⟨hput ▸ hmissing, hmade⟩
        · rw [hput] at hmissing
          cases hmissing
    next => cases h

theorem base_makeSteps {parts : List (List Char)} (h : d.makeSteps l parts = .ok d') :
    d'.base = d.base := by
  induction parts generalizing d l with
  | nil =>
    cases h
    rfl
  | cons part parts ih =>
    rw [makeSteps] at h
    split at h
    next => exact ih h
    next => exact (ih h).trans rfl
    next => cases h

theorem directory_of_makeSteps {parts : List (List Char)} {y : Location}
    (h : d.makeSteps l parts = .ok d') (hy : d.at? y = some .directory) : d'.at? y = some .directory := by
  rcases at?_makeSteps h y with hsame | ⟨hnone, -⟩
  · exact hsame.trans hy
  · rw [hy] at hnone
    cases hnone

theorem foldlM_of_makeSteps {parts : List (List Char)} (h : d.makeSteps l parts = .ok d')
    (hl : d.at? l = some .directory) :
    ∃ x, parts.foldlM d'.takeStep l = .ok x ∧ d'.at? x = some .directory := by
  induction parts generalizing d l with
  | nil =>
    cases h
    exact ⟨l, rfl, hl⟩
  | cons part parts ih =>
    have hstays : d'.at? l = some .directory := directory_of_makeSteps h hl
    have hnext : ∃ x, parts.foldlM d'.takeStep (Path.step l part) = .ok x ∧
        d'.at? x = some .directory := by
      rw [makeSteps] at h
      split at h
      next hdir => exact ih h hdir
      next hnone =>
        have hne : d.at? (Path.step l part) ≠ some .directory := by
          rw [hnone]
          exact (Option.some_ne_none _).symm
        exact ih h (at?_put_self hne)
      next => cases h
    obtain ⟨x, hx, hdir⟩ := hnext
    refine ⟨x, ?_, hdir⟩
    rw [List.foldlM_cons, takeStep, hstays]
    exact hx

theorem look_eq_file_iff {content : Content} {mode : Nat} :
    d.look path = .ok (.file content mode) ↔
      path.isEmpty = false ∧ Path.namesDirectory path = false ∧
        d.follow path = .ok (Path.resolve d.base path) ∧
        d.node? path = some (.file content mode) := by
  unfold look node?
  cases hfollow : d.follow path with
  | error e => cases path.isEmpty <;> simp [bind, Except.bind]
  | ok x =>
    have hx : Path.resolve d.base path = x := foldlM_takeStep hfollow
    rw [hx]
    cases path.isEmpty <;> cases hn : d.at? x with
    | none => simp [bind, Except.bind, hn]
    | some node =>
      cases node with
      | directory => simp [bind, Except.bind, hn, pure, Except.pure]
      | file content' mode' =>
        cases Path.namesDirectory path <;> simp [bind, Except.bind, hn, pure, Except.pure]

theorem readText_eq_ok_iff {s : String} :
    d.readText path = .ok s ↔ ∃ mode, d.look path = .ok (.file (.text s) mode) := by
  unfold readText
  cases d.look path with
  | error e => simp [bind, Except.bind]
  | ok node =>
    cases node with
    | directory => simp [bind, Except.bind]
    | file content mode =>
      cases content <;> simp [bind, Except.bind, Content.text?, pure, Except.pure]

end Disk

namespace FileJar

variable {path : String} {disk disk' : Disk} {jar : FileJar} {data : JarData}

/-- Whether a path can name a file. -/
def NamesFile (path : String) : Prop := path.isEmpty = false ∧ Path.namesDirectory path = false

/-- Whether a disk holds data at a path: in a file, or none where there is no file. -/
def Holds (path : String) (disk : Disk) (data : JarData) : Prop :=
  disk.node? path = none ∧ data = {} ∨
    ∃ s mode, disk.node? path = some (.file (.text s) mode) ∧ JarData.ofText s = .ok data

theorem Holds.isRegular (h : Holds path disk data) : data.IsRegular := by
  rcases h with ⟨-, rfl⟩ | ⟨s, mode, -, hs⟩
  · exact .empty
  · exact JarData.ofText_isRegular hs

theorem Holds.congr (h : Holds path disk data) (hnode : disk'.node? path = disk.node? path) :
    Holds path disk' data := by
  unfold Holds
  rw [hnode]
  exact h

theorem Holds.unique {data' : JarData} (h : Holds path disk data) (h' : Holds path disk data') :
    data = data' := by
  rcases h with ⟨hnone, rfl⟩ | ⟨s, mode, hfile, hs⟩ <;>
    rcases h' with ⟨hnone', rfl⟩ | ⟨s', mode', hfile', hs'⟩
  · rfl
  · rw [hnone] at hfile'
    cases hfile'
  · rw [hnone'] at hfile
    cases hfile
  · rw [hfile] at hfile'
    cases hfile'
    rw [hs] at hs'
    exact Except.ok.inj hs'

theorem openAt_eq_ok_iff :
    openAt path disk = (.ok jar, disk') ↔
      disk.makeDirectories ((Path.parent? path).getD "") = .ok disk' ∧ jar.path = path ∧
        (disk'.exists? path = false ∧ jar.data = {} ∨
          ∃ s, disk'.readText path = .ok s ∧ JarData.ofText s = .ok jar.data) := by
  obtain ⟨path', data⟩ := jar
  unfold openAt
  dsimp only
  constructor
  · intro h
    split at h
    next => cases h
    next made hmade =>
      split at h
      next =>
        split at h
        next => cases h
        next s hread =>
          split at h
          next => cases h
          next hs =>
            cases h
            exact ⟨hmade, rfl, .inr ⟨s, hread, hs⟩⟩
      next hmissing =>
        cases h
        exact ⟨hmade, rfl, .inl ⟨Bool.not_eq_true _ ▸ hmissing, rfl⟩⟩
  · rintro ⟨hmade, rfl, ⟨hmissing, rfl⟩ | ⟨s, hread, hs⟩⟩
    · rw [hmade]
      dsimp only
      rw [hmissing]
      rfl
    · have hthere : disk'.exists? path' = true := by
        obtain ⟨mode, hlook⟩ := Disk.readText_eq_ok_iff.mp hread
        simp [Disk.exists?, hlook]
      rw [hmade]
      dsimp only
      rw [hthere, hread]
      dsimp only
      rw [hs]
      rfl

theorem namesFile_of_isWritable (hw : disk.IsWritable path mode) : NamesFile path := by
  obtain ⟨_, hreplace⟩ := hw
  obtain ⟨-, hpath, hname, -, -⟩ := Disk.replaceFile_eq_ok_iff.mp hreplace
  exact ⟨hpath, hname⟩

/-- Where a file may be put at a path, opening a store there gives the data of the disk. -/
theorem Holds.openAt (h : Holds path disk data) (hw : disk.IsWritable path mode) :
    openAt path disk = (.ok ⟨path, data⟩, disk) := by
  obtain ⟨hmade, hfollow⟩ := hw.reaches
  obtain ⟨hpath, hname⟩ := namesFile_of_isWritable hw
  refine openAt_eq_ok_iff.mpr ⟨hmade, rfl, ?_⟩
  rcases h with ⟨hnone, rfl⟩ | ⟨s, mode, hfile, hs⟩
  · left
    unfold Disk.node? at hnone
    simp [Disk.exists?, Disk.look, hpath, hfollow, hnone, bind, Except.bind]
  · right
    exact ⟨s, Disk.readText_eq_ok_iff.mpr
      ⟨mode, Disk.look_eq_file_iff.mpr ⟨hpath, hname, hfollow, hfile⟩⟩, hs⟩

theorem openAt_cases (h : openAt path disk = (.ok jar, disk')) :
    jar.data = {} ∨ NamesFile path ∧ Holds path disk jar.data := by
  obtain ⟨hmade, -, ⟨-, hempty⟩ | ⟨s, hread, hs⟩⟩ := openAt_eq_ok_iff.mp h
  · exact .inl hempty
  · obtain ⟨mode, hlook⟩ := Disk.readText_eq_ok_iff.mp hread
    obtain ⟨hpath, hname, -, hfile⟩ := Disk.look_eq_file_iff.mp hlook
    refine .inr ⟨⟨hpath, hname⟩, .inr ⟨s, mode, ?_, hs⟩⟩
    -- The file was there before directories were made.
    have hbase : disk'.base = disk.base := Disk.base_makeSteps hmade
    unfold Disk.node? at *
    rw [hbase] at hfile
    rcases Disk.at?_makeSteps hmade (Path.resolve disk.base path) with hsame | ⟨-, hmade⟩
    · rw [← hsame, hfile]
    · rw [hfile] at hmade
      cases hmade

theorem openAt_holds (hbase : disk.at? disk.base = some .directory) (hname : NamesFile path)
    (h : openAt path disk = (.ok jar, disk')) : Holds path disk' jar.data := by
  obtain ⟨hmade, -, hdata⟩ := openAt_eq_ok_iff.mp h
  rcases hdata with ⟨hmissing, hempty⟩ | ⟨s, hread, hs⟩
  · -- The directory was made, so the path leads to its place and nothing stands there.
    have hbase' : disk'.base = disk.base := Disk.base_makeSteps hmade
    have hstart : disk.at? (Path.start disk.base ((Path.parent? path).getD "")) =
        some .directory := by
      unfold Path.start
      split
      · rfl
      · exact hbase
    obtain ⟨x, hfollow, hx⟩ := Disk.foldlM_of_makeSteps hmade hstart
    rw [← hbase'] at hfollow
    have hreach := Disk.follow_of_parent hname.2 hfollow hx
    refine .inl ⟨?_, hempty⟩
    cases hnode : disk'.node? path with
    | none => rfl
    | some node =>
      unfold Disk.node? at hnode
      have hthere : disk'.exists? path = true := by
        cases node <;> simp [Disk.exists?, Disk.look, hname.1, hname.2, hreach, hnode, bind,
          Except.bind, pure, Except.pure]
      rw [hthere] at hmissing
      cases hmissing
  · obtain ⟨mode, hlook⟩ := Disk.readText_eq_ok_iff.mp hread
    obtain ⟨-, -, -, hfile⟩ := Disk.look_eq_file_iff.mp hlook
    exact .inr ⟨s, mode, hfile, hs⟩

theorem save_cases (jar : FileJar) (now : Instant) (disk : Disk) (hd : jar.data.IsRegular) :
    (∃ disk', jar.save now disk = (.ok (), { jar with data := jar.data.prune now }, disk') ∧
        NamesFile jar.path ∧ Holds jar.path disk' (jar.data.prune now)) ∨
      ∃ e, jar.save now disk = (.error e, { jar with data := jar.data.prune now }, disk) := by
  unfold save
  dsimp only
  cases hreplace : disk.replaceFile jar.path (jar.data.prune now).encode.pretty mode with
  | error e => exact .inr ⟨_, rfl⟩
  | ok disk' =>
    obtain ⟨-, hpath, hname, hplace, hd'⟩ := Disk.replaceFile_eq_ok_iff.mp hreplace
    refine .inl ⟨disk', rfl, ⟨hpath, hname⟩, .inr ⟨_, mode, ?_, (hd.filter _).ofText_pretty⟩⟩
    rw [hd']
    exact Disk.at?_put_self hplace

end FileJar

end BearerSession
