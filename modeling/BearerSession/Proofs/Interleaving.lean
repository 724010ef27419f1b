import BearerSession.Proofs.Scene

namespace BearerSession

namespace Task

variable {Ask : Type} {Answer : Ask → Type} {α σ : Type}

/-- Tasks and surroundings after polls in some order. -/
inductive Reaches (s : Surroundings Ask Answer σ) (ts : List (Task Ask Answer α)) (w : σ) :
    List (Task Ask Answer α) → σ → Prop
  | start : Reaches s ts w ts w
  | poll {ts' w' i t} : Reaches s ts w ts' w' → ts'[i]? = some t →
      Reaches s ts w (ts'.set i (t.poll s i w').1) (t.poll s i w').2

theorem Reaches.trans {s : Surroundings Ask Answer σ} {ts us vs : List (Task Ask Answer α)}
    {w w' w'' : σ} (first : Reaches s ts w us w') (second : Reaches s us w' vs w'') :
    Reaches s ts w vs w'' := by
  induction second with
  | start => exact first
  | poll run ht ih => exact .poll ih ht

theorem Reaches.length {s : Surroundings Ask Answer σ} {ts us : List (Task Ask Answer α)} {w w' : σ}
    (run : Reaches s ts w us w') : us.length = ts.length := by
  induction run with
  | start => rfl
  | poll run ht ih => rw [List.length_set, ih]

theorem pass_reaches (s : Surroundings Ask Answer σ) (done ts : List (Task Ask Answer α)) (w : σ) :
    Reaches s (done ++ ts) w (done ++ (pass s done.length ts w).1) (pass s done.length ts w).2 := by
  induction ts generalizing done w with
  | nil => exact .start
  | cons t ts ih =>
    have hget : (done ++ t :: ts)[done.length]? = some t := by simp
    have first := Reaches.poll (.start (s := s) (w := w)) hget
    have hset : (done ++ t :: ts).set done.length (t.poll s done.length w).1 =
        (done ++ [(t.poll s done.length w).1]) ++ ts := by simp
    rw [hset] at first
    have rest := ih (done ++ [(t.poll s done.length w).1]) (t.poll s done.length w).2
    rw [List.length_append, List.length_singleton] at rest
    have run := first.trans rest
    rw [List.append_assoc] at run
    exact run

/-- Pass after pass, the scheduler polls in one of the orders. -/
theorem passes_reaches (s : Surroundings Ask Answer σ) (n : Nat) (ts : List (Task Ask Answer α))
    (w : σ) : Reaches s ts w (passes s n ts w).1 (passes s n ts w).2 := by
  induction n generalizing ts w with
  | zero => exact .start
  | succ n ih =>
    unfold passes
    split
    · exact .start
    · exact (pass_reaches s [] ts w).trans (ih _ _)

section Views

variable {τ : Type} {s : Surroundings Ask Answer σ} {v : Surroundings Ask Answer τ} (view : σ → τ)
  (hreact : ∀ i c w, v.react i c (view w) = ((s.react i c w).1, view (s.react i c w).2))
  (hturn : ∀ i w, v.hasTurn i (view w) = s.hasTurn i w)

include hreact

theorem advance_view (i : Nat) (p : Program Ask Answer α) (w : σ) :
    advance v i p (view w) = ((advance s i p w).1, view (advance s i p w).2) := by
  induction p generalizing w with
  | done a => rfl
  | ask c next ih =>
    unfold advance
    rw [hreact]
    cases s.react i c w with
    | mk r w' =>
      cases r with
      | now a => exact ih a w'
      | queued a => rfl
      | later n a =>
        cases n with
        | zero => exact ih a w'
        | succ n => rfl

include hturn

theorem poll_view (i : Nat) (t : Task Ask Answer α) (w : σ) :
    t.poll v i (view w) = ((t.poll s i w).1, view (t.poll s i w).2) := by
  cases t with
  | ready p => exact advance_view view hreact i p w
  | asleep polls p =>
    cases polls with
    | zero => exact advance_view view hreact i p w
    | succ n => rfl
  | waiting p =>
    rw [poll_waiting, poll_waiting, hturn]
    split
    · exact advance_view view hreact i p w
    · rfl
  | finished a => rfl

theorem pass_view (i : Nat) (ts : List (Task Ask Answer α)) (w : σ) :
    pass v i ts (view w) = ((pass s i ts w).1, view (pass s i ts w).2) := by
  induction ts generalizing i w with
  | nil => rfl
  | cons t ts ih =>
    simp only [pass, poll_view view hreact hturn, ih]

/-- Who sees less of the surroundings sees the same tasks. -/
theorem passes_view (n : Nat) (ts : List (Task Ask Answer α)) (w : σ) :
    passes v n ts (view w) = ((passes s n ts w).1, view (passes s n ts w).2) := by
  induction n generalizing ts w with
  | zero => rfl
  | succ n ih =>
    unfold passes
    split
    · rfl
    · simp only [pass_view view hreact hturn, ih]

end Views

end Task

section Past

variable {α : Type} (e : Endpoint)

theorem advance_past (i : Nat) (p : Script α) (s : Scene) :
    ∀ m ∈ (Task.advance e.scenes i p s).2.past, m ∈ s.past ∨ m.task = i := by
  induction p generalizing s with
  | done a => exact fun m hm => .inl hm
  | ask c next ih =>
    have hstep : ∀ m ∈ (e.scenes.react i c s).2.past, m ∈ s.past ∨ m.task = i := by
      intro m hm
      rcases List.mem_cons.mp hm with rfl | hm
      · exact .inr rfl
      · exact .inl hm
    intro m hm
    unfold Task.advance at hm
    cases hr : e.scenes.react i c s with
    | mk r s' =>
      rw [hr] at hm hstep
      have hrest : ∀ a, m ∈ (Task.advance e.scenes i (next a) s').2.past →
          m ∈ s.past ∨ m.task = i :=
        fun a ha => (ih a s' m ha).elim (hstep m) .inr
      cases r with
      | now a => exact hrest a hm
      | queued a => exact hstep m hm
      | later n a =>
        cases n with
        | zero => exact hrest a hm
        | succ n => exact hstep m hm

theorem poll_past (i : Nat) (t : Task Call Call.Answer α) (s : Scene) :
    ∀ m ∈ (t.poll e.scenes i s).2.past, m ∈ s.past ∨ m.task = i := by
  cases t with
  | ready p => exact advance_past e i p s
  | asleep n p =>
    cases n with
    | zero => exact advance_past e i p s
    | succ n => exact fun m hm => .inl hm
  | waiting p =>
    rw [Task.poll_waiting]
    split
    · exact advance_past e i p s
    · exact fun m hm => .inl hm
  | finished a => exact fun m hm => .inl hm

/-- Only the tasks that run make calls. -/
theorem reaches_past {e : Endpoint} {ts ts' : List (Task Call Call.Answer α)} {w : World}
    {s : Scene} (run : Task.Reaches e.scenes ts ⟨w, []⟩ ts' s) : ∀ m ∈ s.past, m.task < ts.length := by
  induction run with
  | start => exact fun m hm => nomatch hm
  | @poll us s' i t run ht ih =>
    intro m hm
    rcases poll_past e i t s' m hm with hm | rfl
    · exact ih m hm
    · rw [← run.length]
      exact (List.getElem?_eq_some_iff.mp ht).1

end Past

namespace World

theorem passes_scenes {α : Type} (n : Nat) (ts : List (Task Call Call.Answer α)) (w : World)
    (past : List Moment) :
    Task.passes surroundings n ts w =
      ((Task.passes Endpoint.scripted.scenes n ts ⟨w, past⟩).1,
        (Task.passes Endpoint.scripted.scenes n ts ⟨w, past⟩).2.world) := by
  refine Task.passes_view (s := Endpoint.scripted.scenes) (v := surroundings) Scene.world ?_ ?_ n ts
    ⟨w, past⟩
  · intro i c s
    exact (scripted_react i c s.world).symm
  · intro i s
    rfl

/-- Programs that the surroundings run side by side are polled in one of the orders. -/
theorem runAll_reaches {α : Type} (w : World) (pauses : Nat) (ps : List (Script α)) :
    ∃ ts s, Task.Reaches Endpoint.scripted.scenes (ps.map .ready) ⟨w, []⟩ ts s ∧
      w.runAll pauses ps = (ts.map Task.result?, s.world) := by
  refine ⟨_, _, Task.passes_reaches _ (w.pending + pauses + ps.length + 2) _ _, ?_⟩
  unfold runAll
  rw [passes_scenes]

/-- A program that the surroundings run alone comes to its result. -/
theorem run_alone {α : Type} {w w' : World} {p : Script α} {a : α} (h : w.run p = (some a, w')) :
    ∃ past, p.alone Endpoint.scripted.scenes 0 ⟨w, []⟩ = (a, ⟨w', past⟩) := by
  unfold run runAll at h
  rw [passes_scenes _ _ _ []] at h
  obtain ⟨t, s, hp, ha⟩ := Task.passes_alone Endpoint.scripted.scenes
    (w.pending + 0 + [p].length + 2) (.ready p) ⟨w, []⟩
  simp only [List.map_cons, List.map_nil, hp, List.head?_cons, Option.join_some, Prod.mk.injEq] at h
  obtain ⟨hresult, rfl⟩ := h
  cases t with
  | finished b =>
    cases Option.some.inj hresult
    exact ⟨s.past, ha.symm⟩
  | _ => cases hresult

end World

/-- What holds at every place of programs that run side by side. `inv` holds between any two calls,
`moves` of the program of the task that is running, and `rests` of a task that is not. -/
structure Outline {Ask : Type} {Answer : Ask → Type} {σ : Type} (s : Surroundings Ask Answer σ)
    (α : Type) where
  inv : σ → Prop
  moves : Nat → Program Ask Answer α → σ → Prop
  rests : Nat → Task Ask Answer α → σ → Prop
  ready {i p w} : inv w → rests i (.ready p) w → moves i p w
  awake {i p w} : inv w → rests i (.asleep 0 p) w → moves i p w
  turn {i p w} : inv w → rests i (.waiting p) w → s.hasTurn i w = true → moves i p w
  doze {i n p w} : rests i (.asleep (n + 1) p) w → rests i (.asleep n p) w
  done {i a w} : inv w → moves i (.done a) w → rests i (.finished a) w
  keep {i c next w} : inv w → moves i (.ask c next) w → inv (s.react i c w).2
  now {i c next w a} : inv w → moves i (.ask c next) w → (s.react i c w).1 = .now a →
    moves i (next a) (s.react i c w).2
  later {i c next w n a} : inv w → moves i (.ask c next) w → (s.react i c w).1 = .later n a →
    moves i (next a) (s.react i c w).2 ∧ ∀ k, rests i (.asleep k (next a)) (s.react i c w).2
  queued {i c next w a} : inv w → moves i (.ask c next) w → (s.react i c w).1 = .queued a →
    rests i (.waiting (next a)) (s.react i c w).2
  frame {i j c next t w} : i ≠ j → inv w → moves i (.ask c next) w → rests j t w →
    rests j t (s.react i c w).2

namespace Outline

variable {Ask : Type} {Answer : Ask → Type} {α σ : Type} {s : Surroundings Ask Answer σ}

def Holds (o : Outline s α) (ts : List (Task Ask Answer α)) (w : σ) : Prop :=
  o.inv w ∧ ∀ j t, ts[j]? = some t → o.rests j t w

theorem advance_holds (o : Outline s α) (i : Nat) (p : Program Ask Answer α) (w : σ)
    (others : Nat → Task Ask Answer α → Prop) (hi : o.inv w) (hp : o.moves i p w)
    (ho : ∀ j u, others j u → i ≠ j ∧ o.rests j u w) :
    o.inv (Task.advance s i p w).2 ∧
      o.rests i (Task.advance s i p w).1 (Task.advance s i p w).2 ∧
      ∀ j u, others j u → o.rests j u (Task.advance s i p w).2 := by
  induction p generalizing w with
  | done a => exact ⟨hi, o.done hi hp, fun j u hu => (ho j u hu).2⟩
  | ask c next ih =>
    have hkeep := o.keep hi hp
    have hframe : ∀ j u, others j u → i ≠ j ∧ o.rests j u (s.react i c w).2 :=
      fun j u hu => ⟨(ho j u hu).1, o.frame (ho j u hu).1 hi hp (ho j u hu).2⟩
    unfold Task.advance
    cases hr : s.react i c w with
    | mk r w' =>
      have hr1 : (s.react i c w).1 = r := by rw [hr]
      rw [hr] at hkeep hframe
      cases r with
      | now a =>
        have hn := o.now hi hp hr1
        rw [hr] at hn
        exact ih a w' hkeep hn hframe
      | queued a =>
        have hq := o.queued hi hp hr1
        rw [hr] at hq
        exact ⟨hkeep, hq, fun j u hu => (hframe j u hu).2⟩
      | later n a =>
        obtain ⟨hn, hs⟩ := o.later hi hp hr1
        rw [hr] at hn hs
        cases n with
        | zero => exact ih a w' hkeep hn hframe
        | succ n => exact ⟨hkeep, hs n, fun j u hu => (hframe j u hu).2⟩

theorem poll_holds (o : Outline s α) (i : Nat) (t : Task Ask Answer α) (w : σ)
    (others : Nat → Task Ask Answer α → Prop) (hi : o.inv w) (ht : o.rests i t w)
    (ho : ∀ j u, others j u → i ≠ j ∧ o.rests j u w) :
    o.inv (t.poll s i w).2 ∧ o.rests i (t.poll s i w).1 (t.poll s i w).2 ∧
      ∀ j u, others j u → o.rests j u (t.poll s i w).2 := by
  have same : o.inv w ∧ o.rests i t w ∧ ∀ j u, others j u → o.rests j u w :=
    ⟨hi, ht, fun j u hu => (ho j u hu).2⟩
  cases t with
  | ready p => exact o.advance_holds i p w others hi (o.ready hi ht) ho
  | asleep polls p =>
    cases polls with
    | zero => exact o.advance_holds i p w others hi (o.awake hi ht) ho
    | succ n => exact ⟨hi, o.doze ht, same.2.2⟩
  | waiting p =>
    rw [Task.poll_waiting]
    split
    next hturn => exact o.advance_holds i p w others hi (o.turn hi ht hturn) ho
    next => exact same
  | finished a => exact same

/-- Whatever the order of polls, what holds at the start holds ever after. -/
theorem reaches_holds (o : Outline s α) {ts ts' : List (Task Ask Answer α)} {w w' : σ}
    (run : Task.Reaches s ts w ts' w') (h : o.Holds ts w) : o.Holds ts' w' := by
  induction run with
  | start => exact h
  | @poll us w' i t run ht ih =>
    obtain ⟨hi, hrest⟩ := ih
    obtain ⟨hinv, hown, hother⟩ := o.poll_holds i t w' (fun j u => us[j]? = some u ∧ j ≠ i) hi
      (hrest i t ht) (fun j u hu => ⟨Ne.symm hu.2, hrest j u hu.1⟩)
    refine ⟨hinv, fun j u hu => ?_⟩
    by_cases hj : j = i
    · subst hj
      have hlt : j < us.length := (List.getElem?_eq_some_iff.mp ht).1
      rw [List.getElem?_set_self hlt] at hu
      cases Option.some.inj hu
      exact hown
    · rw [List.getElem?_set_ne (Ne.symm hj)] at hu
      exact hother j u ⟨hu, hj⟩

end Outline

end BearerSession
