import BearerSession.Proofs.Interleaving

namespace BearerSession

variable {Ask : Type} {Answer : Ask → Type} {α σ : Type}

namespace Task

/-- Whether a task that is polled goes on, and with what program. -/
inductive Goes (s : Surroundings Ask Answer σ) (i : Nat) (w : σ) :
    Task Ask Answer α → Program Ask Answer α → Prop
  | ready {p} : Goes s i w (.ready p) p
  | awake {p} : Goes s i w (.asleep 0 p) p
  | turn {p} : s.hasTurn i w = true → Goes s i w (.waiting p) p

/-- The states between the calls of a program, up to its suspension. -/
inductive Through (s : Surroundings Ask Answer σ) (i : Nat) : Program Ask Answer α → σ → σ → Prop
  | here {p w} : Through s i p w w
  | called {c next w} : Through s i (.ask c next) w (s.react i c w).2
  | now {c next w a v} : (s.react i c w).1 = .now a → Through s i (next a) (s.react i c w).2 v →
      Through s i (.ask c next) w v
  | soon {c next w a v} : (s.react i c w).1 = .later 0 a →
      Through s i (next a) (s.react i c w).2 v → Through s i (.ask c next) w v

/-- The states at any moment, also between two calls of one poll. -/
inductive Visits (s : Surroundings Ask Answer σ) (ts : List (Task Ask Answer α)) (w : σ) : σ → Prop
  | between {ts' w'} : Reaches s ts w ts' w' → Visits s ts w w'
  | during {ts' w' i t p v} : Reaches s ts w ts' w' → ts'[i]? = some t → t.Goes s i w' p →
      Through s i p w' v → Visits s ts w v

end Task

namespace Outline

variable {s : Surroundings Ask Answer σ}

theorem goes_moves (o : Outline s α) {i : Nat} {w : σ} {t : Task Ask Answer α}
    {p : Program Ask Answer α} (hi : o.inv w) (ht : o.rests i t w) (go : t.Goes s i w p) :
    o.moves i p w := by
  cases go with
  | ready => exact o.ready hi ht
  | awake => exact o.awake hi ht
  | turn hturn => exact o.turn hi ht hturn

theorem through_inv (o : Outline s α) {i : Nat} {p : Program Ask Answer α} {w v : σ}
    (path : Task.Through s i p w v) (hi : o.inv w) (hp : o.moves i p w) : o.inv v := by
  induction path with
  | here => exact hi
  | called => exact o.keep hi hp
  | now hr _ ih => exact ih (o.keep hi hp) (o.now hi hp hr)
  | soon hr _ ih => exact ih (o.keep hi hp) (o.later hi hp hr).1

/-- The invariant holds at any moment. -/
theorem visits_inv (o : Outline s α) {ts : List (Task Ask Answer α)} {w v : σ}
    (visit : Task.Visits s ts w v) (h : o.Holds ts w) : o.inv v := by
  cases visit with
  | between run => exact (o.reaches_holds run h).1
  | during run ht go path =>
    obtain ⟨hi, hrest⟩ := o.reaches_holds run h
    exact o.through_inv path hi (o.goes_moves hi (hrest _ _ ht) go)

end Outline

/-- Whether the calls of a program are permitted up to its suspension, and it suspends at rest. Only
states within the scope count. -/
def Program.Runs (s : Surroundings Ask Answer σ) (scope : σ → Prop)
    (permits : Nat → Ask → σ → Prop) (rests : Nat → Task Ask Answer α → σ → Prop) (i : Nat) :
    Program Ask Answer α → σ → Prop
  | .done a, w => rests i (.finished a) w
  | .ask c next, w => scope (s.react i c w).2 → permits i c w ∧
    match (s.react i c w).1 with
    | .now a => (next a).Runs s scope permits rests i (s.react i c w).2
    | .later _ a => ∀ k, rests i (.asleep k (next a)) (s.react i c w).2
    | .queued a => rests i (.waiting (next a)) (s.react i c w).2

/-- What tasks may do, what that preserves, and how they rest. -/
structure Discipline {Ask : Type} {Answer : Ask → Type} {σ : Type} (s : Surroundings Ask Answer σ)
    (α : Type) where
  scope : σ → Prop
  inv : σ → Prop
  permits : Nat → Ask → σ → Prop
  rests : Nat → Task Ask Answer α → σ → Prop
  /-- Once out of scope, a run stays so. -/
  back {i c w} : scope (s.react i c w).2 → scope w
  keep {i c w} : scope (s.react i c w).2 → inv w → permits i c w → inv (s.react i c w).2
  frame {i j c t w} : i ≠ j → scope (s.react i c w).2 → inv w → permits i c w → rests j t w →
    rests j t (s.react i c w).2
  ready {i p w} : scope w → inv w → rests i (.ready p) w → p.Runs s scope permits rests i w
  awake {i p w} : scope w → inv w → rests i (.asleep 0 p) w → p.Runs s scope permits rests i w
  turn {i p w} : scope w → inv w → rests i (.waiting p) w → s.hasTurn i w = true →
    p.Runs s scope permits rests i w
  doze {i n p w} : rests i (.asleep (n + 1) p) w → rests i (.asleep n p) w

namespace Discipline

variable {s : Surroundings Ask Answer σ}

/-- Who keeps to a discipline has an outline. -/
def outline (d : Discipline s α) : Outline s α where
  inv w := d.scope w → d.inv w
  moves i p w := d.scope w → p.Runs s d.scope d.permits d.rests i w
  rests i t w := d.scope w → d.rests i t w
  ready hi hr hs := d.ready hs (hi hs) (hr hs)
  awake hi hr hs := d.awake hs (hi hs) (hr hs)
  turn hi hr ht hs := d.turn hs (hi hs) (hr hs) ht
  doze hr hs := d.doze (hr hs)
  done _ hm hs := hm hs
  keep hi hm hs := d.keep hs (hi (d.back hs)) (hm (d.back hs) hs).1
  now {i c next w a} hi hm hr := by
    intro hs
    have hnext := (hm (d.back hs) hs).2
    rw [hr] at hnext
    exact hnext
  later {i c next w n a} hi hm hr := by
    have hrest : ∀ k, d.scope (s.react i c w).2 →
        d.rests i (.asleep k (next a)) (s.react i c w).2 := by
      intro k hs
      have hnext := (hm (d.back hs) hs).2
      rw [hr] at hnext
      exact hnext k
    -- Without a delay the task goes on at once, as one that wakes.
    refine ⟨fun hs => ?_, hrest⟩
    have hinv := d.keep hs (hi (d.back hs)) (hm (d.back hs) hs).1
    exact d.awake hs hinv (hrest 0 hs)
  queued {i c next w a} hi hm hr := by
    intro hs
    have hnext := (hm (d.back hs) hs).2
    rw [hr] at hnext
    exact hnext
  frame hij hi hm hr hs :=
    d.frame hij hs (hi (d.back hs)) (hm (d.back hs) hs).1 (hr (d.back hs))

/-- Whatever the order of polls, the invariant holds at any moment within the scope. -/
theorem visits_inv (d : Discipline s α) {ts : List (Task Ask Answer α)} {w v : σ}
    (visit : Task.Visits s ts w v) (hi : d.inv w) (hr : ∀ i t, ts[i]? = some t → d.rests i t w)
    (hs : d.scope v) : d.inv v :=
  d.outline.visits_inv visit ⟨fun _ => hi, fun i t ht _ => hr i t ht⟩ hs

end Discipline

end BearerSession
