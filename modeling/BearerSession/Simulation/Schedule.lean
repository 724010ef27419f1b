import BearerSession.Simulation.Program

namespace BearerSession

/-- How the surroundings answer a call: at once, after so many passes, or when the task's turn at
a lock has come. -/
inductive Reaction (α : Type)
  | now (a : α)
  | later (passes : Nat) (a : α)
  | queued (a : α)

/-- Surroundings that answer the calls of numbered tasks and tell whose turn it is. -/
structure Surroundings (Call : Type) (Answer : Call → Type) (σ : Type) where
  react : Nat → (c : Call) → σ → Reaction (Answer c) × σ
  hasTurn : Nat → σ → Bool

/-- A task: ready to run, asleep for so many polls, waiting for its turn, or finished. -/
inductive Task (Call : Type) (Answer : Call → Type) (α : Type)
  | ready (p : Program Call Answer α)
  | asleep (polls : Nat) (p : Program Call Answer α)
  | waiting (p : Program Call Answer α)
  | finished (a : α)

namespace Task

variable {Call : Type} {Answer : Call → Type} {α σ : Type}

/-- The result of a task that has finished. -/
def result? : Task Call Answer α → Option α
  | finished a => some a
  | _ => none

def isFinished (t : Task Call Answer α) : Bool := t.result?.isSome

/-- Runs a program up to its next suspension or its end. -/
def advance (s : Surroundings Call Answer σ) (id : Nat) :
    Program Call Answer α → σ → Task Call Answer α × σ
  | .done a, w => (.finished a, w)
  | .ask c next, w =>
    match s.react id c w with
    | (.now a, w) => advance s id (next a) w
    | (.later 0 a, w) => advance s id (next a) w
    | (.later (passes + 1) a, w) => (.asleep passes (next a), w)
    | (.queued a, w) => (.waiting (next a), w)

/-- Polls a task once. -/
def poll (s : Surroundings Call Answer σ) (id : Nat) (t : Task Call Answer α) (w : σ) :
    Task Call Answer α × σ :=
  match t with
  | ready p => advance s id p w
  | asleep 0 p => advance s id p w
  | asleep (polls + 1) p => (asleep polls p, w)
  | waiting p => if s.hasTurn id w then advance s id p w else (waiting p, w)
  | finished a => (finished a, w)

/-- Polls tasks in their order, the first of which has the given number. -/
def pass (s : Surroundings Call Answer σ) (id : Nat) :
    List (Task Call Answer α) → σ → List (Task Call Answer α) × σ
  | [], w => ([], w)
  | t :: ts, w =>
    let (t, w) := t.poll s id w
    let (ts, w) := pass s (id + 1) ts w
    (t :: ts, w)

/-- Makes so many passes, or fewer if all tasks finish before. -/
def passes (s : Surroundings Call Answer σ) :
    Nat → List (Task Call Answer α) → σ → List (Task Call Answer α) × σ
  | 0, ts, w => (ts, w)
  | n + 1, ts, w =>
    if ts.all isFinished then (ts, w)
    else
      let (ts, w) := pass s 0 ts w
      passes s n ts w

end Task

end BearerSession
