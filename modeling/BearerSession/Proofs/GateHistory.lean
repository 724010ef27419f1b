import BearerSession.Proofs.Scene

namespace BearerSession

/-- How far a task has come at a gate. -/
structure Passage where
  arrived : Bool := false
  entered : Bool := false
  begun : Bool := false
  finished : Bool := false
  deriving DecidableEq, Repr

/-- The mark with which a refresh begins. -/
def Call.begins : Call → Bool
  | .note (.mark name _) => name = "begin"
  | _ => false

/-- The outcome of a refresh that finishes. -/
def Call.outcome? : Call → Option RefreshOutcome
  | .settle outcome => some outcome
  | _ => none

/-- Whether only a gate makes a call. -/
def Call.isReserved : Call → Bool
  | .last | .settle _ | .acquire | .release => true
  | _ => false

/-- How far a task has come after one more call. -/
def Passage.after (p : Passage) (c : Call) : Passage :=
  match c with
  | .acquire => { p with arrived := true }
  | .last => { p with entered := true }
  | .settle _ => { p with finished := true }
  | c => { p with begun := p.begun || c.begins }

/-- How far a task has come by a history, which has its latest moment first. -/
def passage (i : Nat) : List Moment → Passage
  | [] => {}
  | m :: h => if m.task = i then (passage i h).after m.call else passage i h

/-- Whether a moment is the arrival of a task. -/
def Moment.arrives (i : Nat) : Moment → Bool
  | ⟨j, .acquire, _⟩ => j = i
  | _ => false

/-- Whether at a moment a task has taken the gate. -/
def Moment.enters (i : Nat) : Moment → Bool
  | ⟨j, .last, _⟩ => j = i
  | _ => false

/-- The outcomes of all refreshes that finished. -/
def outcomes (h : List Moment) : List RefreshOutcome := h.filterMap fun m => m.call.outcome?

/-- The outcomes of the refreshes that finished after a task arrived. -/
def missed (i : Nat) (h : List Moment) : List RefreshOutcome :=
  outcomes (h.takeWhile fun m => !m.arrives i)

/-- What happened before a task arrived. -/
def tillArrival (i : Nat) (h : List Moment) : List Moment :=
  (h.dropWhile fun m => !m.arrives i).tail

/-- What happened before a task took the gate. -/
def tillEntry (i : Nat) (h : List Moment) : List Moment :=
  (h.dropWhile fun m => !m.enters i).tail

/-- What happened after a task took the gate. -/
def sinceEntry (i : Nat) (h : List Moment) : List Moment := h.takeWhile fun m => !m.enters i

/-- Whether the refresh of a task has begun and has not finished. -/
def InProgress (i : Nat) (h : List Moment) : Prop :=
  (passage i h).begun = true ∧ (passage i h).finished = false

section Growth

variable {i : Nat} {m : Moment} {h : List Moment}

@[simp] theorem passage_nil (i : Nat) : passage i [] = {} := rfl

theorem passage_own (hm : m.task = i) : passage i (m :: h) = (passage i h).after m.call :=
  if_pos hm

theorem passage_mk (i : Nat) (c : Call) (a : c.Answer) (h : List Moment) :
    passage i (⟨i, c, a⟩ :: h) = (passage i h).after c := passage_own rfl

theorem passage_other (hm : m.task ≠ i) : passage i (m :: h) = passage i h := if_neg hm

theorem passage_of_absent (hm : ∀ m ∈ h, m.task ≠ i) : passage i h = {} := by
  induction h with
  | nil => rfl
  | cons m h ih =>
    rw [passage_other (hm m List.mem_cons_self)]
    exact ih fun m' hm' => hm m' (List.mem_cons_of_mem m hm')

@[simp] theorem outcomes_nil : outcomes [] = [] := rfl

theorem outcomes_cons (m : Moment) (h : List Moment) :
    outcomes (m :: h) = m.call.outcome?.toList ++ outcomes h := by
  unfold outcomes
  rw [List.filterMap_cons]
  cases m.call.outcome? <;> rfl

theorem outcomes_append (h h' : List Moment) :
    outcomes (h ++ h') = outcomes h ++ outcomes h' := List.filterMap_append

theorem arrives_task (hm : m.arrives i = true) : m.task = i := by
  unfold Moment.arrives at hm
  split at hm
  · exact of_decide_eq_true hm
  · cases hm

theorem enters_task (hm : m.enters i = true) : m.task = i := by
  unfold Moment.enters at hm
  split at hm
  · exact of_decide_eq_true hm
  · cases hm

theorem arrives_of_ne (hm : m.task ≠ i) : m.arrives i = false := by
  cases ha : m.arrives i with
  | false => rfl
  | true => exact absurd (arrives_task ha) hm

theorem enters_of_ne (hm : m.task ≠ i) : m.enters i = false := by
  cases ha : m.enters i with
  | false => rfl
  | true => exact absurd (enters_task ha) hm

theorem arrives_outcome (hm : m.arrives i = true) : m.call.outcome? = none := by
  unfold Moment.arrives at hm
  split at hm
  · rfl
  · cases hm

theorem missed_arrival (hm : m.arrives i = true) : missed i (m :: h) = [] := by
  simp [missed, hm]

theorem missed_cons (hm : m.arrives i = false) :
    missed i (m :: h) = m.call.outcome?.toList ++ missed i h := by
  unfold missed
  rw [List.takeWhile_cons_of_pos (by simp [hm]), outcomes_cons]

theorem tillArrival_arrival (hm : m.arrives i = true) : tillArrival i (m :: h) = h := by
  simp [tillArrival, hm]

theorem tillArrival_cons (hm : m.arrives i = false) : tillArrival i (m :: h) = tillArrival i h := by
  simp [tillArrival, hm]

theorem tillEntry_entry (hm : m.enters i = true) : tillEntry i (m :: h) = h := by
  simp [tillEntry, hm]

theorem tillEntry_cons (hm : m.enters i = false) : tillEntry i (m :: h) = tillEntry i h := by
  simp [tillEntry, hm]

theorem sinceEntry_entry (hm : m.enters i = true) : sinceEntry i (m :: h) = [] := by
  simp [sinceEntry, hm]

theorem sinceEntry_cons (hm : m.enters i = false) :
    sinceEntry i (m :: h) = m :: sinceEntry i h := by
  simp [sinceEntry, hm]

theorem outcomes_missed (i : Nat) (h : List Moment) :
    outcomes h = missed i h ++ outcomes (tillArrival i h) := by
  induction h with
  | nil => rfl
  | cons m h ih =>
    rw [outcomes_cons]
    cases hm : m.arrives i with
    | true => rw [missed_arrival hm, tillArrival_arrival hm, arrives_outcome hm]; rfl
    | false => rw [missed_cons hm, tillArrival_cons hm, List.append_assoc, ← ih]

end Growth

end BearerSession
