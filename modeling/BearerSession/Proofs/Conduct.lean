import BearerSession.Proofs.Discipline
import BearerSession.Proofs.GateSchedule

namespace BearerSession

/-- The moments of one task. -/
def own (i : Nat) (h : List Moment) : List Moment := h.filter (·.task = i)

/-- Whether a call may suspend its task. -/
def Call.suspends : Call → Bool
  | .send _ _ | .pause _ | .acquire => true
  | _ => false

/-- By its own moments, whether a task has come to the gate and not handed it over since. -/
def inside : List Moment → Bool
  | [] => false
  | m :: h =>
    match m.call with
    | .acquire => true
    | .release => false
    | _ => inside h

/-- By its own moments, whether a task may be suspended or has not begun. -/
def Idle (h : List Moment) : Prop := ∀ m ∈ h.head?, m.call.suspends = true

/-- Whether a program, after what its task did before, makes only calls that its rules permit and
comes to what is wanted. Nothing is known of the answers. -/
def Program.Follows {α : Type} (i : Nat) (permits : List Moment → Call → Prop)
    (wants : α → List Moment → Prop) : Program Call Call.Answer α → List Moment → Prop
  | .done a, h => wants a h
  | .ask c next, h => permits h c ∧ ∀ a, (next a).Follows i permits wants (⟨i, c, a⟩ :: h)

namespace Program

variable {α β : Type} {i : Nat} {permits : List Moment → Call → Prop} {h : List Moment}

theorem follows_bind {p : Script α} {f : α → Script β} {wants : β → List Moment → Prop} :
    (p >>= f).Follows i permits wants h ↔
      p.Follows i permits (fun a h => (f a).Follows i permits wants h) h := by
  induction p generalizing h with
  | done a => exact Iff.rfl
  | ask c next ih => exact and_congr_right fun _ => forall_congr' fun a => ih a

theorem Follows.mono {p : Script α} {wants wants' : α → List Moment → Prop}
    (hp : p.Follows i permits wants h) (hw : ∀ a h, wants a h → wants' a h) :
    p.Follows i permits wants' h := by
  induction p generalizing h with
  | done a => exact hw a h hp
  | ask c next ih => exact ⟨hp.1, fun a => ih a (hp.2 a)⟩

end Program

section Moments

variable {i j : Nat} {h : List Moment} {m : Moment}

theorem own_cons_self (i : Nat) (c : Call) (a : c.Answer) (h : List Moment) :
    own i (⟨i, c, a⟩ :: h) = ⟨i, c, a⟩ :: own i h := by
  simp [own]

theorem own_cons_other (hm : m.task ≠ i) (h : List Moment) : own i (m :: h) = own i h := by
  simp [own, hm]

theorem inside_other {c : Call} (ha : c ≠ .acquire) (hr : c ≠ .release) (a : c.Answer) :
    inside (⟨i, c, a⟩ :: h) = inside h := by
  cases c <;> first | rfl | contradiction

theorem idle_cons {c : Call} (hc : c.suspends = true) (a : c.Answer) : Idle (⟨i, c, a⟩ :: h) := by
  intro m hm
  cases hm
  exact hc

end Moments

namespace Endpoint

variable {e : Endpoint} {i : Nat} {c : Call} {w : World}

theorem react_lock (e : Endpoint) (i : Nat) (w : World) (ha : c ≠ .acquire) (hr : c ≠ .release) :
    (e.react i c w).2.gate.lock = w.gate.lock := by
  cases hc : c.isReserved with
  | false => rw [e.react_gate w i hc]
  | true => cases c <;> first | rfl | contradiction

theorem suspends_of_later {n : Nat} {a : c.Answer} (h : (e.react i c w).1 = .later n a) :
    c.suspends = true ∧ c ≠ .acquire := by
  cases c with
  | send destination message => exact ⟨rfl, nofun⟩
  | pause passes => exact ⟨rfl, nofun⟩
  | supply =>
    unfold react World.react at h
    cases hs : w.supplies <;> simp [hs] at h
  | acquire =>
    unfold react World.react at h
    dsimp only at h
    split at h <;> cases h
  | _ => cases h

theorem acquire_of_queued {a : c.Answer} (h : (e.react i c w).1 = .queued a) : c = .acquire := by
  cases hc : c.isReserved with
  | false => exact absurd h (e.react_not_queued w i hc a)
  | true =>
    cases c with
    | acquire => rfl
    | last => cases h
    | settle o => cases h
    | release => cases h
    | _ => cases hc

theorem acquire_now {a : Unit} (h : (e.react i .acquire w).1 = .now a) :
    (e.react i .acquire w).2.gate.lock.holder = some i := by
  have hreaction : (e.react i .acquire w).1 =
      if w.gate.lock.holder.isNone then .now () else .queued () := rfl
  rw [hreaction] at h
  cases hholder : w.gate.lock.holder with
  | none => exact Lock.acquire_holder i hholder
  | some k =>
    rw [hholder] at h
    cases h

end Endpoint

/-- Rules for the calls of each task by its own moments. Nobody may hand over a gate that it has not
come to. -/
structure Conduct where
  permits : Nat → List Moment → Call → Prop
  release {i h} : permits i h .release → inside h = true

namespace Conduct

variable (r : Conduct) {e : Endpoint} {α : Type}

/-- What is known where a task makes a call. -/
structure Moves (i : Nat) (c : Call) (s : Scene) : Prop where
  permitted : r.permits i (own i s.past) c
  holds : inside (own i s.past) = true → s.world.gate.lock.holder = some i
  /-- Only a task that was suspended finds that another made the latest call. -/
  unbroken : Idle (own i s.past) ∨ ∃ m ∈ s.past.head?, m.task = i

/-- What is known of a task between its polls. -/
structure Rests (i : Nat) (t : Task Call Call.Answer α) (s : Scene) : Prop where
  follows : t.rest.Follows i (r.permits i) (fun _ _ => True) (own i s.past)
  idle : (∃ a, t = .finished a) ∨ Idle (own i s.past)
  holds : inside (own i s.past) = true →
    (∃ p, t = .waiting p) ∨ (∃ a, t = .finished a) ∨ s.world.gate.lock.holder = some i

variable {r} {i j : Nat} {s : Scene}

/-- What another task does within the rules leaves a holder of the gate as it is. -/
theorem Moves.holder {c : Call} (hm : r.Moves i c s) (hij : i ≠ j)
    (hj : s.world.gate.lock.holder = some j) :
    (e.react i c s.world).2.gate.lock.holder = some j := by
  by_cases ha : c = .acquire
  · subst ha
    exact Lock.acquire_holder_of_some i hj
  · by_cases hr : c = .release
    · subst hr
      have hi := hm.holds (r.release hm.permitted)
      rw [hj] at hi
      exact absurd (Option.some.inj hi).symm hij
    · rw [e.react_lock i s.world ha hr]
      exact hj

theorem Moves.holder_self {c : Call} {a : c.Answer} (hm : r.Moves i c s)
    (hnow : c ≠ .acquire ∨ (e.react i c s.world).1 = .now a)
    (hin : inside (⟨i, c, a⟩ :: own i s.past) = true) :
    (e.react i c s.world).2.gate.lock.holder = some i := by
  by_cases ha : c = .acquire
  · subst ha
    exact e.acquire_now (hnow.resolve_left (· rfl))
  · by_cases hr : c = .release
    · subst hr
      cases hin
    · rw [e.react_lock i s.world ha hr]
      rw [inside_other ha hr] at hin
      exact hm.holds hin

/-- From one suspension to the next a program that keeps to the rules does only what is known. -/
theorem runs {scope : Scene → Prop} {p : Script α}
    (follows : p.Follows i (r.permits i) (fun _ _ => True) (own i s.past))
    (holds : inside (own i s.past) = true → s.world.gate.lock.holder = some i)
    (unbroken : Idle (own i s.past) ∨ ∃ m ∈ s.past.head?, m.task = i) :
    p.Runs e.scenes scope (fun i c s => r.Moves i c s) (fun i t s => r.Rests i t s) i s := by
  induction p generalizing s with
  | done a => exact ⟨follows, .inl ⟨a, rfl⟩, fun _ => .inr (.inl ⟨a, rfl⟩)⟩
  | ask c next ih =>
    intro hscope
    have hm : r.Moves i c s := ⟨follows.1, holds, unbroken⟩
    have hnext (a : c.Answer) (ha : (e.react i c s.world).1.answer = a) :
        own i (e.scenes.react i c s).2.past = ⟨i, c, a⟩ :: own i s.past := by
      rw [← ha]
      exact own_cons_self i c _ s.past
    have hreaction : (e.scenes.react i c s).1 = (e.react i c s.world).1 := rfl
    refine ⟨hm, ?_⟩
    rw [hreaction]
    cases hr : (e.react i c s.world).1 with
    | now a =>
      have hown := hnext a (by rw [hr]; rfl)
      refine ih a (hown ▸ follows.2 a) (fun hin => ?_) (.inr ⟨_, rfl, rfl⟩)
      rw [hown] at hin
      exact hm.holder_self (.inr hr) hin
    | later n a =>
      intro k
      have hown := hnext a (by rw [hr]; rfl)
      obtain ⟨hsuspends, hacquire⟩ := e.suspends_of_later hr
      refine ⟨hown ▸ follows.2 a, .inr (hown ▸ idle_cons hsuspends a), fun hin => .inr (.inr ?_)⟩
      rw [hown] at hin
      exact hm.holder_self (.inl hacquire) hin
    | queued a =>
      -- Only the gate makes a task wait, and who waits for it is inside without holding it.
      have hown := hnext a (by rw [hr]; rfl)
      have hsuspends : c.suspends = true := e.acquire_of_queued hr ▸ rfl
      exact ⟨hown ▸ follows.2 a, .inr (hown ▸ idle_cons hsuspends a), fun _ => .inl ⟨_, rfl⟩⟩

theorem Rests.other {c : Call} {t : Task Call Call.Answer α} (hij : i ≠ j) (hm : r.Moves i c s)
    (ht : r.Rests j t s) : r.Rests j t (e.scenes.react i c s).2 := by
  have hown : own j (e.scenes.react i c s).2.past = own j s.past := own_cons_other hij s.past
  refine ⟨hown ▸ ht.follows, hown ▸ ht.idle, fun hin => ?_⟩
  rw [hown] at hin
  rcases ht.holds hin with hwaiting | hfinished | hholder
  · exact .inl hwaiting
  · exact .inr (.inl hfinished)
  · exact .inr (.inr (hm.holder hij hholder))

end Conduct

/-- What is to hold between any two calls of tasks that keep to rules, and that every call within
the rules preserves it. Once out of scope, a run stays so. -/
structure Law (r : Conduct) (e : Endpoint) where
  scope : Scene → Prop
  inv : Scene → Prop
  back {i c s} : scope (e.scenes.react i c s).2 → scope s
  keep {i c s} : scope (e.scenes.react i c s).2 → inv s → r.Moves i c s →
    inv (e.scenes.react i c s).2

namespace Law

variable {r : Conduct} {e : Endpoint} {α : Type}

def discipline (l : Law r e) : Discipline e.scenes α where
  scope := l.scope
  inv := l.inv
  permits i c s := r.Moves i c s
  rests i t s := r.Rests i t s
  back := l.back
  keep := l.keep
  frame hij _ _ hm ht := ht.other hij hm
  ready _ _ ht := by
    have hidle := ht.idle.resolve_left nofun
    have hholds (hin) := (ht.holds hin).resolve_left nofun |>.resolve_left nofun
    exact Conduct.runs ht.follows hholds (.inl hidle)
  awake _ _ ht := by
    have hidle := ht.idle.resolve_left nofun
    have hholds (hin) := (ht.holds hin).resolve_left nofun |>.resolve_left nofun
    exact Conduct.runs ht.follows hholds (.inl hidle)
  turn _ _ ht hturn := by
    have hidle := ht.idle.resolve_left nofun
    exact Conduct.runs ht.follows (fun _ => of_decide_eq_true hturn) (.inl hidle)
  doze ht := ⟨ht.follows, .inr (ht.idle.resolve_left nofun), fun hin =>
    .inr (.inr ((ht.holds hin).resolve_left nofun |>.resolve_left nofun))⟩

theorem visits_inv (l : Law r e) {ps : List (Script α)} {w : World} {v : Scene}
    (follows : ∀ (i : Nat) (p : Script α), ps[i]? = some p →
      p.Follows i (r.permits i) (fun _ _ => True) [])
    (visit : Task.Visits e.scenes (ps.map .ready) ⟨w, []⟩ v) (hi : l.inv ⟨w, []⟩)
    (hs : l.scope v) : l.inv v := by
  refine l.discipline.visits_inv visit hi (fun i t ht => ?_) hs
  rw [List.getElem?_map, Option.map_eq_some_iff] at ht
  obtain ⟨p, hp, rfl⟩ := ht
  exact ⟨follows i p hp, .inr fun m hm => (by cases hm), fun hin => (by cases hin)⟩

end Law

namespace Conduct

variable (r : Conduct) {e : Endpoint} {α : Type} {s : Scene}

/-- A history of calls within the rules, each right after its task's latest unless that may have
suspended it. -/
def Orderly (h : List Moment) : Prop :=
  ∀ m before, m :: before <:+ h → r.permits m.task (own m.task before) m.call ∧
    (Idle (own m.task before) ∨ ∃ m' ∈ before.head?, m'.task = m.task)

/-- By its own moments, a task may still wait for the gate. -/
def Waits (h : List Moment) : Prop := ∃ m ∈ h.head?, m.call = .acquire

/-- Whoever is inside holds the gate or waits for it. -/
def Guarded (s : Scene) : Prop :=
  ∀ i, inside (own i s.past) = true →
    Waits (own i s.past) ∨ s.world.gate.lock.holder = some i

variable {r} {i : Nat}

theorem Orderly.cons {c : Call} (h : r.Orderly s.past) (hm : r.Moves i c s) (a : c.Answer) :
    r.Orderly (⟨i, c, a⟩ :: s.past) := by
  intro m before hs
  rcases List.suffix_cons_iff.mp hs with heq | hs
  · cases heq
    exact ⟨hm.permitted, hm.unbroken⟩
  · exact h m before hs

theorem Guarded.keep {c : Call} (h : Guarded s) (hm : r.Moves i c s) :
    Guarded (e.scenes.react i c s).2 := by
  intro j
  show inside (own j (⟨i, c, (e.react i c s.world).1.answer⟩ :: s.past)) = true → _ ∨
    (e.react i c s.world).2.gate.lock.holder = some j
  intro hin
  by_cases hij : i = j
  · subst hij
    rw [own_cons_self] at hin
    by_cases ha : c = .acquire
    · left
      subst ha
      exact ⟨_, congrArg List.head? (own_cons_self i Call.acquire _ s.past), rfl⟩
    · exact .inr (hm.holder_self (.inl ha) hin)
  · have hown : own j (e.scenes.react i c s).2.past = own j s.past := own_cons_other hij s.past
    rw [own_cons_other hij] at hin
    rw [hown]
    exact (h j hin).imp id (hm.holder hij)

theorem visits_orderly {ps : List (Script α)} {w : World}
    (follows : ∀ (i : Nat) (p : Script α), ps[i]? = some p →
      p.Follows i (r.permits i) (fun _ _ => True) [])
    (visit : Task.Visits e.scenes (ps.map .ready) ⟨w, []⟩ s) : r.Orderly s.past ∧ Guarded s := by
  let law : Law r e :=
    { scope := fun _ => True
      inv := fun s => r.Orderly s.past ∧ Guarded s
      back := fun _ => trivial
      keep := fun _ h hm => ⟨h.1.cons hm _, h.2.keep hm⟩ }
  refine law.visits_inv follows visit ⟨?_, ?_⟩ trivial
  · intro m before hs
    cases List.suffix_nil.mp hs
  · intro i hin
    cases hin

end Conduct

end BearerSession
