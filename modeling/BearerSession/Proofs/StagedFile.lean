import BearerSession.Proofs.DiskPath

namespace BearerSession

inductive SaveStep
  | create
  | restrict
  | write
  | sync
  | rename
  deriving DecidableEq

/-- What a file system makes of the steps: the name that it gives the file beside, the steps that it
refuses, what it has written of a text when it refuses to write more, and whether the file beside
can be taken away again. -/
structure Staging where
  name : String
  refused : SaveStep → Option IoError := fun _ => none
  written : String → String := fun _ => ""
  cleared : Bool := true

/-- The path of the directory that a path leads through in the end. -/
def Path.home (path : String) : String :=
  let parent := (Path.parent? path).getD ""
  if parent.isEmpty then "." else parent

namespace Staging

variable (s : Staging)

/-- Where the file beside a path is made. -/
def place (d : Disk) (path : String) : Location :=
  Path.resolve d.base (Path.home path) ++ [s.name]

/-- Whether the name for the file beside a path is a new one. -/
structure IsFresh (d : Disk) (path : String) : Prop where
  vacant : d.nodes.get? (Disk.key (s.place d path)) = none
  apart : Disk.key (Path.resolve d.base path) ≠ Disk.key (s.place d path)

instance (d : Disk) (path : String) : Decidable (s.IsFresh d path) :=
  decidable_of_iff (d.nodes.get? (Disk.key (s.place d path)) = none ∧
    Disk.key (Path.resolve d.base path) ≠ Disk.key (s.place d path))
    ⟨fun h => ⟨h.1, h.2⟩, fun h => ⟨h.vacant, h.apart⟩⟩

end Staging

namespace Disk

/-- Takes away the one thing that stands at a location. -/
def drop (d : Disk) (l : Location) : Disk := { d with nodes := d.nodes.erase (key l) }

section Steps

variable (s : Staging) (path content : String) (mode : Nat)

/-- Makes an empty file beside a path. -/
def createBeside (d : Disk) : Except IoError Disk :=
  match d.look (Path.home path) with
  | .error e => .error e
  | .ok (.file _ _) => .error .notADirectory
  | .ok .directory => .ok (d.put (s.place d path) (.file (.text "") 0o600))

/-- Moves the file beside a path to its place. -/
def renameOver (d : Disk) : Except IoError Disk :=
  let l := Path.resolve d.base path
  if path.isEmpty then .error .notFound
  else if d.at? l = some .directory then .error .isADirectory
  else if Path.namesDirectory path then .error .notADirectory
  else
    match d.nodes.get? (key (s.place d path)) with
    | none => .error .notFound
    | some node => .ok ((d.drop (s.place d path)).put l node)

/-- A step that the file system does not refuse of itself. -/
def saveStep (d : Disk) : SaveStep → Except IoError Disk
  | .create => d.createBeside s path
  | .restrict => .ok (d.put (s.place d path) (.file (.text "") mode))
  | .write => .ok (d.put (s.place d path) (.file (.text content) mode))
  | .sync => .ok d
  | .rename => d.renameOver s path

/-- The disk when a step is refused: a text may have been written in part. -/
def broken (d : Disk) : SaveStep → Disk
  | .write => d.put (s.place d path) (.file (.text (s.written content)) mode)
  | _ => d

/-- The disk when the steps are given up. -/
def abandon (d : Disk) : Disk := if s.cleared then d.drop (s.place d path) else d

def runSteps : List SaveStep → Disk → Except IoError Unit × Disk
  | [], d => (.ok (), d)
  | step :: steps, d =>
    match s.refused step with
    | some e => (.error e, abandon s path (broken s path content mode d step))
    | none =>
      match saveStep s path content mode d step with
      | .error e => (.error e, abandon s path d)
      | .ok d => runSteps steps d

/-- Replaces a file step by step. -/
def replaceInSteps (d : Disk) : Except IoError Unit × Disk :=
  runSteps s path content mode [.create, .restrict, .write, .sync, .rename] d

end Steps

/-- Whether a disk is another one but for what stands under one name. -/
structure AgreesBut (name : String) (d d' : Disk) : Prop where
  base : d'.base = d.base
  nodes : ∀ k, k ≠ name → d'.nodes.get? k = d.nodes.get? k

section Refusals

variable {s : Staging} {path content name : String} {mode : Nat} {d d' : Disk} {l : Location}
  {n : DiskNode}

theorem AgreesBut.refl (name : String) (d : Disk) : AgreesBut name d d := ⟨rfl, fun _ _ => rfl⟩

theorem AgreesBut.place (h : AgreesBut name d d') : s.place d' path = s.place d path := by
  unfold Staging.place
  rw [h.base]

theorem AgreesBut.put (h : AgreesBut (key l) d d') : AgreesBut (key l) d (d'.put l n) := by
  refine ⟨h.base, fun k hk => ?_⟩
  show (d'.nodes.insert (key l) n).get? k = _
  rw [SortedMap.get?_insert, if_neg hk]
  exact h.nodes k hk

theorem AgreesBut.drop (h : AgreesBut (key l) d d') : AgreesBut (key l) d (d'.drop l) := by
  refine ⟨h.base, fun k hk => ?_⟩
  show (d'.nodes.erase (key l)).get? k = _
  rw [SortedMap.get?_erase, if_neg hk]
  exact h.nodes k hk

/-- What was put where nothing stood, and then taken away, was never there. -/
theorem AgreesBut.drop_eq (h : AgreesBut (key l) d d') (hl : d.nodes.get? (key l) = none) :
    d'.drop l = d := by
  obtain ⟨base, nodes⟩ := d
  unfold Disk.drop
  rw [h.base]
  congr 1
  refine SortedMap.ext_get? fun k => ?_
  rw [SortedMap.get?_erase]
  split
  next hk => rw [hk, hl]
  next hk => exact h.nodes k hk

theorem AgreesBut.at? (h : AgreesBut name d d') {x : Location} (hx : key x ≠ name) :
    d'.at? x = d.at? x := by
  unfold Disk.at?
  rw [h.nodes _ hx]

theorem AgreesBut.node? (h : AgreesBut name d d')
    (hpath : key (Path.resolve d.base path) ≠ name) : d'.node? path = d.node? path := by
  unfold Disk.node?
  rw [h.base]
  exact h.at? hpath

/-- Up to the last step only the file beside is touched. -/
theorem AgreesBut.saveStep (h : AgreesBut (key (s.place d path)) d d') {step : SaveStep}
    (hstep : step ≠ .rename) {d'' : Disk}
    (htaken : d'.saveStep s path content mode step = .ok d'') :
    AgreesBut (key (s.place d path)) d d'' := by
  have hput (n : DiskNode) : AgreesBut (key (s.place d path)) d (d'.put (s.place d' path) n) := by
    rw [h.place]
    exact h.put
  cases step with
  | create =>
    have hcreated : d'.createBeside s path = .ok d'' := htaken
    unfold createBeside at hcreated
    split at hcreated <;> cases hcreated
    exact hput _
  | restrict =>
    cases htaken
    exact hput _
  | write =>
    cases htaken
    exact hput _
  | sync =>
    cases htaken
    exact h
  | rename => exact absurd rfl hstep

theorem AgreesBut.broken (h : AgreesBut (key (s.place d path)) d d') (step : SaveStep) :
    AgreesBut (key (s.place d path)) d (d'.broken s path content mode step) := by
  cases step with
  | write =>
    unfold Disk.broken
    rw [h.place]
    exact h.put
  | _ => exact h

theorem AgreesBut.abandon (h : AgreesBut (key (s.place d path)) d d') :
    AgreesBut (key (s.place d path)) d (d'.abandon s path) := by
  unfold Disk.abandon
  split
  next =>
    rw [h.place]
    exact h.drop
  next => exact h

theorem AgreesBut.abandon_eq (h : AgreesBut (key (s.place d path)) d d')
    (hvacant : d.nodes.get? (key (s.place d path)) = none) (hcleared : s.cleared = true) :
    d'.abandon s path = d := by
  unfold Disk.abandon
  rw [if_pos hcleared, h.place]
  exact h.drop_eq hvacant

/-- Steps that end in the renaming and fail are given up at a disk that differs in the file beside
alone. -/
theorem runSteps_of_refused {steps : List SaveStep} (hsteps : .rename ∉ steps) {e : IoError}
    {d₀ : Disk} (h : AgreesBut (key (s.place d path)) d d')
    (hrun : runSteps s path content mode (steps ++ [.rename]) d' = (.error e, d₀)) :
    ∃ last, AgreesBut (key (s.place d path)) d last ∧ d₀ = last.abandon s path := by
  induction steps generalizing d' with
  | nil =>
    rw [List.nil_append, runSteps] at hrun
    split at hrun
    next =>
      cases hrun
      exact ⟨_, h.broken .rename, rfl⟩
    next =>
      split at hrun
      next =>
        cases hrun
        exact ⟨_, h, rfl⟩
      next => cases hrun
  | cons step steps ih =>
    rw [List.cons_append, runSteps] at hrun
    split at hrun
    next =>
      cases hrun
      exact ⟨_, h.broken step, rfl⟩
    next =>
      split at hrun
      next =>
        cases hrun
        exact ⟨_, h, rfl⟩
      next htaken =>
        have hstep : step ≠ .rename := fun heq => hsteps (heq ▸ List.mem_cons_self)
        exact ih (fun hmem => hsteps (List.mem_cons_of_mem _ hmem)) (h.saveStep hstep htaken) hrun

/-- At whatever step a replacement fails, the file is as it was, and the whole disk too if the file
beside can be taken away. -/
theorem replaceInSteps_of_refused (hfresh : s.IsFresh d path) {e : IoError}
    (hrun : d.replaceInSteps s path content mode = (.error e, d')) :
    d'.node? path = d.node? path ∧ (s.cleared = true → d' = d) := by
  have hbefore : SaveStep.rename ∉ [SaveStep.create, .restrict, .write, .sync] := by decide
  obtain ⟨last, hlast, rfl⟩ := runSteps_of_refused hbefore (.refl _ d) hrun
  exact ⟨hlast.abandon.node? hfresh.apart, hlast.abandon_eq hfresh.vacant⟩

section Granted

variable (granted : ∀ step, s.refused step = none) {step : SaveStep} {steps : List SaveStep}

include granted

theorem runSteps_taken (h : d.saveStep s path content mode step = .ok d') :
    runSteps s path content mode (step :: steps) d = runSteps s path content mode steps d' := by
  rw [runSteps, granted]
  dsimp only
  rw [h]

theorem runSteps_stuck {e : IoError} (h : d.saveStep s path content mode step = .error e) :
    runSteps s path content mode (step :: steps) d = (.error e, d.abandon s path) := by
  rw [runSteps, granted]
  dsimp only
  rw [h]

/-- Once the file beside is made, it gets its rights and the text. -/
theorem exists_staged (path content : String) (mode : Nat) (d : Disk) :
    ∃ staged, AgreesBut (key (s.place d path)) d staged ∧
      staged.nodes.get? (key (s.place d path)) = some (.file (.text content) mode) ∧
      runSteps s path content mode [.restrict, .write, .sync, .rename]
          (d.put (s.place d path) (.file (.text "") 0o600)) =
        runSteps s path content mode [.rename] staged := by
  let made := d.put (s.place d path) (.file (.text "") 0o600)
  let restricted := made.put (s.place d path) (.file (.text "") mode)
  let written := restricted.put (s.place d path) (.file (.text content) mode)
  have hmade : AgreesBut (key (s.place d path)) d made := (AgreesBut.refl _ d).put
  have hrestrict : made.saveStep s path content mode .restrict = .ok restricted := rfl
  have hwrite : restricted.saveStep s path content mode .write = .ok written := rfl
  have hsync : written.saveStep s path content mode .sync = .ok written := rfl
  refine ⟨written, hmade.put.put, (SortedMap.get?_insert _ _ _ _).trans (if_pos rfl), ?_⟩
  rw [runSteps_taken granted hrestrict, runSteps_taken granted hwrite,
    runSteps_taken granted hsync]

end Granted

/-- Where a file may be made, and what may be replaced by it. -/
theorem replaceFile_cases (d : Disk) (path content : String) (mode : Nat) :
    d.replaceFile path content mode =
      match d.look (Path.home path) with
      | .error e => .error e
      | .ok (.file _ _) => .error .notADirectory
      | .ok .directory =>
        if path.isEmpty then .error .notFound
        else if d.at? (Path.resolve d.base path) = some .directory then .error .isADirectory
        else if Path.namesDirectory path then .error .notADirectory
        else .ok (d.put (Path.resolve d.base path) (.file (.text content) mode)) := by
  unfold replaceFile Path.home
  simp only [bind, Except.bind]
  generalize d.look _ = seen
  rcases seen with _ | _ | _
  · rfl
  · rfl
  · dsimp only
    split
    · rfl
    · rcases d.at? (Path.resolve d.base path) with _ | _ | _ <;> simp [pure, Except.pure]

/-- Where the file system refuses no step of itself, the five steps are one. -/
theorem replaceInSteps_eq (hfresh : s.IsFresh d path) (granted : ∀ step, s.refused step = none)
    (hcleared : s.cleared = true) :
    d.replaceInSteps s path content mode =
      match d.replaceFile path content mode with
      | .ok d' => (.ok (), d')
      | .error e => (.error e, d) := by
  have hgiven {d' : Disk} (h : AgreesBut (key (s.place d path)) d d') : d'.abandon s path = d :=
    h.abandon_eq hfresh.vacant hcleared
  rw [replaceFile_cases]
  unfold replaceInSteps
  cases hlook : d.look (Path.home path) with
  | error e =>
    have hstuck : d.saveStep s path content mode .create = .error e := by
      unfold saveStep createBeside
      rw [hlook]
    rw [runSteps_stuck granted hstuck, hgiven (.refl _ d)]
  | ok node =>
    cases node with
    | file content' mode' =>
      have hstuck : d.saveStep s path content mode .create = .error .notADirectory := by
        unfold saveStep createBeside
        rw [hlook]
      rw [runSteps_stuck granted hstuck, hgiven (.refl _ d)]
    | directory =>
      obtain ⟨staged, hstaged, hbeside, hsteps⟩ := exists_staged granted path content mode d
      have hcreated : d.saveStep s path content mode .create =
          .ok (d.put (s.place d path) (.file (.text "") 0o600)) := by
        unfold saveStep createBeside
        rw [hlook]
      have hrename : staged.saveStep s path content mode .rename =
          if path.isEmpty then .error .notFound
          else if d.at? (Path.resolve d.base path) = some .directory then .error .isADirectory
          else if Path.namesDirectory path then .error .notADirectory
          else .ok (d.put (Path.resolve d.base path) (.file (.text content) mode)) := by
        unfold saveStep renameOver
        dsimp only
        rw [hstaged.place, hstaged.base, hstaged.at? hfresh.apart, hbeside,
          hstaged.drop_eq hfresh.vacant]
      rw [runSteps_taken granted hcreated, hsteps]
      dsimp only
      rw [← hrename]
      cases hlast : staged.saveStep s path content mode .rename with
      | error e => rw [runSteps_stuck granted hlast, hgiven hstaged]
      | ok d' => rw [runSteps_taken granted hlast, runSteps]

end Refusals

end Disk

end BearerSession
