import BearerSession.Disk

namespace BearerSession.Disk

/-- Whether a file may be put at a path. -/
def IsWritable (d : Disk) (path : String) (mode : Nat) : Prop :=
  ∃ d', d.replaceFile path "" mode = .ok d'

instance (d : Disk) (path : String) (mode : Nat) : Decidable (d.IsWritable path mode) :=
  decidable_of_iff ((d.replaceFile path "" mode).isOk = true) <| by
    unfold IsWritable
    cases d.replaceFile path "" mode <;> simp [Except.isOk, Except.toBool]

variable {d : Disk} {l x : Location} {n : DiskNode} {path : String} {mode : Nat}

/-- What is put where no directory was hides no directory. -/
theorem at?_put_directory (hl : d.at? l ≠ some .directory) (hx : d.at? x = some .directory) :
    (d.put l n).at? x = some .directory := by
  unfold at? at *
  split
  next => rfl
  next hne =>
    rw [if_neg hne] at hx
    show (d.nodes.insert (key l) n).get? (key x) = _
    rw [SortedMap.get?_insert]
    split
    next hkey =>
      split at hl
      next => exact absurd rfl hl
      next =>
        rw [hkey] at hx
        exact absurd hx hl
    next => exact hx

theorem takeStep_put (hl : d.at? l ≠ some .directory) {part : List Char} {x' : Location}
    (h : d.takeStep x part = .ok x') : (d.put l n).takeStep x part = .ok x' := by
  unfold takeStep at *
  split at h
  next hx => rw [at?_put_directory hl hx]; exact h
  next => cases h
  next => cases h

theorem follow_put (hl : d.at? l ≠ some .directory) (h : d.follow path = .ok x) :
    (d.put l n).follow path = .ok x := by
  unfold follow at *
  have hbase : (d.put l n).base = d.base := rfl
  rw [hbase]
  generalize Path.start d.base path = start at *
  generalize Path.steps path = parts at *
  induction parts generalizing start with
  | nil => exact h
  | cons part parts ih =>
    rw [List.foldlM_cons] at h ⊢
    cases hstep : d.takeStep start part with
    | error e =>
      rw [hstep] at h
      cases h
    | ok next =>
      rw [hstep] at h
      rw [takeStep_put hl hstep]
      exact ih next h

theorem look_put_directory (hl : d.at? l ≠ some .directory) (h : d.look path = .ok .directory) :
    (d.put l n).look path = .ok .directory := by
  unfold look at *
  split at h
  next => cases h
  next hne =>
    rw [if_neg hne]
    cases hf : d.follow path with
    | error e =>
      rw [hf] at h
      cases h
    | ok x =>
      rw [follow_put hl hf]
      rw [hf] at h
      simp only [bind, Except.bind] at h ⊢
      cases hx : d.at? x with
      | none =>
        rw [hx] at h
        cases h
      | some node =>
        rw [hx] at h
        cases node with
        | directory => rw [at?_put_directory hl hx]; rfl
        | file content mode =>
          dsimp only at h
          split at h <;> cases h

/-- What makes a path writable. -/
theorem replaceFile_eq_ok_iff {content : String} {d' : Disk} :
    d.replaceFile path content mode = .ok d' ↔
      d.look (if ((Path.parent? path).getD "").isEmpty then "." else (Path.parent? path).getD "") =
          .ok .directory ∧
        path.isEmpty = false ∧ Path.namesDirectory path = false ∧
        d.at? (Path.resolve d.base path) ≠ some .directory ∧
        d' = d.put (Path.resolve d.base path) (.file (.text content) mode) := by
  unfold replaceFile
  simp only [bind, Except.bind]
  generalize d.look _ = seen
  generalize Path.resolve d.base path = l
  cases seen with
  | error e => simp
  | ok node =>
    cases node with
    | file content mode => simp
    | directory =>
      cases hpath : path.isEmpty <;> cases hname : Path.namesDirectory path <;>
        rcases hl : d.at? l with _ | _ | _ <;> simp [pure, Except.pure, eq_comm]

theorem at?_put_self (hl : d.at? l ≠ some .directory) : (d.put l n).at? l = some n := by
  unfold at? at *
  split
  next h =>
    rw [if_pos h] at hl
    exact absurd rfl hl
  next =>
    show (d.nodes.insert (key l) n).get? (key l) = _
    rw [SortedMap.get?_insert, if_pos rfl]

/-- A writable path can be written and stays writable. -/
theorem IsWritable.replaceFile (h : d.IsWritable path mode) (content : String) :
    ∃ d', d.replaceFile path content mode = .ok d' ∧ d'.IsWritable path mode := by
  obtain ⟨d₀, h⟩ := h
  obtain ⟨hlook, hpath, hname, hplace, -⟩ := replaceFile_eq_ok_iff.mp h
  refine ⟨_, replaceFile_eq_ok_iff.mpr ⟨hlook, hpath, hname, hplace, rfl⟩, _,
    replaceFile_eq_ok_iff.mpr ⟨look_put_directory hplace hlook, hpath, hname, ?_, rfl⟩⟩
  have hself : (d.put (Path.resolve d.base path) (.file (.text content) mode)).at?
      (Path.resolve d.base path) = some (.file (.text content) mode) := at?_put_self hplace
  intro hbad
  have heq := hself.symm.trans hbad
  cases heq

end BearerSession.Disk
