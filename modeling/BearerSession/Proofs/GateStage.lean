import BearerSession.Proofs.GateOrder
import BearerSession.Proofs.Interleaving

namespace BearerSession

/-- Whether a program makes only calls of one kind. -/
def Program.Asks {Ask : Type} {Answer : Ask → Type} {α : Type} (P : Ask → Prop) :
    Program Ask Answer α → Prop
  | .done _ => True
  | .ask c next => P c ∧ ∀ a, (next a).Asks P

/-- By its moments in a history a task comes from one program to what is left of it. -/
inductive Leads {α : Type} (i : Nat) (p : Script α) : List Moment → Script α → Prop
  | start : Leads i p [] p
  | own {h c next a} : Leads i p h (Program.ask c next) → Leads i p (⟨i, c, a⟩ :: h) (next a)
  | other {h m q} : m.task ≠ i → Leads i p h q → Leads i p (m :: h) q

namespace Lock

/-- Who holds a lock and who waits for it, in the order of their turns. -/
def line (l : Lock) : List Nat := l.holder.toList ++ l.queue

/-- Nobody waits for a lock that is free. -/
def IsFair (l : Lock) : Prop := l.holder = none → l.queue = []

variable {l : Lock} {i : Nat}

theorem acquire_line (hl : l.IsFair) (i : Nat) : (l.acquire i).line = l.line ++ [i] := by
  unfold line acquire
  cases hh : l.holder with
  | none => simp [hl hh]
  | some k => simp

theorem acquire_fair (l : Lock) (i : Nat) : (l.acquire i).IsFair := by
  unfold IsFair acquire
  cases hh : l.holder with
  | none => simp
  | some k => simp

theorem acquire_holder (i : Nat) (hh : l.holder = none) : (l.acquire i).holder = some i := by
  simp [acquire, hh]

theorem acquire_holder_of_some {k : Nat} (i : Nat) (hh : l.holder = some k) :
    (l.acquire i).holder = some k := by
  simp [acquire, hh]

theorem line_of_holder (hh : l.holder = some i) : l.line = i :: l.queue := by
  simp [line, hh]

theorem release_line (l : Lock) : l.release.line = l.queue := by
  unfold line release
  split <;> simp_all

theorem release_fair (l : Lock) : l.release.IsFair := by
  unfold IsFair release
  split <;> simp

end Lock

/-- A refresh whose beginning is marked. -/
def announced (i : Nat) (body : Script RefreshOutcome) : Script RefreshOutcome := do
  Script.note (.mark "begin" i)
  body

def gateCaller (i : Nat) (body : Script RefreshOutcome) : Script RefreshOutcome :=
  Script.gate.run Script.log (announced i body)

/-- What is left of a caller before it hands the gate over. -/
def leaving (outcome : RefreshOutcome) : Script RefreshOutcome :=
  Program.ask .release fun _ => Program.done outcome

/-- After its refresh. -/
def closing (outcome : RefreshOutcome) : Script RefreshOutcome :=
  Program.ask (.settle outcome) fun _ => leaving outcome

/-- Before it takes over an outcome. -/
def reusing (outcome : RefreshOutcome) : Script RefreshOutcome :=
  Program.ask (.log ⟨.debug, "Reusing outcome of concurrent refresh"⟩) fun _ => leaving outcome

/-- When it has seen the latest outcome. -/
def judging (i : Nat) (body : Script RefreshOutcome) (ticket completed : Nat)
    (last : Option RefreshOutcome) : Script RefreshOutcome :=
  match if ticket < completed then last else none with
  | some outcome => reusing outcome
  | none => announced i body >>= closing

/-- Before it looks at the latest outcome. -/
def looking (i : Nat) (body : Script RefreshOutcome) (ticket completed : Nat) :
    Script RefreshOutcome :=
  Program.ask .last (judging i body ticket completed)

/-- When it has taken the gate. -/
def entering (i : Nat) (body : Script RefreshOutcome) (ticket : Nat) : Script RefreshOutcome :=
  Program.ask .completed (looking i body ticket)

/-- When it has its ticket. -/
def seeking (i : Nat) (body : Script RefreshOutcome) (ticket : Nat) : Script RefreshOutcome :=
  Program.ask .acquire fun _ => entering i body ticket

end BearerSession
