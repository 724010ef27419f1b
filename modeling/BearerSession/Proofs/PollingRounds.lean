import BearerSession.Proofs.Interleaving
import Mathlib.Logic.Hydra

namespace BearerSession.Task

open Relation (CutExpand TransGen)

variable {Ask : Type} {Answer : Ask → Type} {α σ : Type} {s : Surroundings Ask Answer σ}

/-- Whether a poll moves a task: it is ready, asleep, or has its turn. -/
def Stirs (s : Surroundings Ask Answer σ) (i : Nat) (w : σ) : Task Ask Answer α → Prop
  | ready _ => True
  | asleep _ _ => True
  | waiting _ => s.hasTurn i w = true
  | finished _ => False

/-- What a task that moves becomes. -/
def Moved (s : Surroundings Ask Answer σ) (t' t : Task Ask Answer α) : Prop :=
  ∃ i w, t.Stirs s i w ∧ (t.poll s i w).1 = t'

section Moves

variable {i : Nat} {w : σ} {t : Task Ask Answer α} {p : Program Ask Answer α}

theorem poll_still (h : ¬ t.Stirs s i w) : t.poll s i w = (t, w) := by
  cases t with
  | ready p => exact absurd trivial h
  | asleep n p => exact absurd trivial h
  | waiting p => exact if_neg h
  | finished a => rfl

theorem Stirs.unfinished (h : t.Stirs s i w) : t.isFinished = false := by
  cases t with
  | finished a => exact h.elim
  | _ => rfl

theorem acc_finished (a : α) : Acc (Moved s) (finished a : Task Ask Answer α) := by
  refine ⟨_, fun t' ht => ?_⟩
  obtain ⟨i, w, hstirs, -⟩ := ht
  exact hstirs.elim

/-- A task with a program that always comes to rest comes to rest itself. -/
theorem acc_asleep (h : ∀ i w, Acc (Moved s) (advance s i p w).1) (n : Nat) :
    Acc (Moved s) (asleep n p) := by
  induction n with
  | zero =>
    refine ⟨_, fun t' ht => ?_⟩
    obtain ⟨i, w, -, rfl⟩ := ht
    exact h i w
  | succ n ih =>
    refine ⟨_, fun t' ht => ?_⟩
    obtain ⟨i, w, -, rfl⟩ := ht
    exact ih

theorem acc_waiting (h : ∀ i w, Acc (Moved s) (advance s i p w).1) :
    Acc (Moved s) (waiting p) := by
  refine ⟨_, fun t' ht => ?_⟩
  obtain ⟨i, w, hturn, rfl⟩ := ht
  have hgoes : (waiting p).poll s i w = advance s i p w := if_pos hturn
  rw [hgoes]
  exact h i w

theorem acc_advance (p : Program Ask Answer α) :
    ∀ i w, Acc (Moved s) (advance s i p w).1 := by
  induction p with
  | done a => exact fun _ _ => acc_finished a
  | ask c next ih =>
    intro i w
    unfold advance
    cases s.react i c w with
    | mk r w' =>
      cases r with
      | now a => exact ih a i w'
      | queued a => exact acc_waiting (ih a)
      | later n a =>
        cases n with
        | zero => exact ih a i w'
        | succ n => exact acc_asleep (ih a) n

/-- No task moves for ever. -/
theorem wellFounded_moved (s : Surroundings Ask Answer σ) :
    WellFounded (Moved s : Task Ask Answer α → Task Ask Answer α → Prop) := by
  refine ⟨fun t => ?_⟩
  cases t with
  | ready p =>
    refine ⟨_, fun t' ht => ?_⟩
    obtain ⟨i, w, -, rfl⟩ := ht
    exact acc_advance p i w
  | asleep n p => exact acc_asleep (acc_advance p) n
  | waiting p => exact acc_waiting (acc_advance p)
  | finished a => exact acc_finished a

end Moves

/-- What tasks become when one of them moves. -/
def MovedOne (s : Surroundings Ask Answer σ) :
    List (Task Ask Answer α) → List (Task Ask Answer α) → Prop :=
  InvImage (CutExpand (Moved s)) fun ts => (ts : Multiset (Task Ask Answer α))

theorem wellFounded_movedOne (s : Surroundings Ask Answer σ) :
    WellFounded (MovedOne s : List (Task Ask Answer α) → List (Task Ask Answer α) → Prop) :=
  InvImage.wf _ (wellFounded_moved s).cutExpand

theorem movedOne_of_moved (front back : List (Task Ask Answer α)) {t t' : Task Ask Answer α}
    (h : Moved s t' t) : MovedOne s (front ++ t' :: back) (front ++ t :: back) := by
  have hfront (u : Task Ask Answer α) :
      ((front ++ u :: back : List _) : Multiset (Task Ask Answer α)) =
        {u} + ((front ++ back : List _) : Multiset (Task Ask Answer α)) :=
    Multiset.coe_eq_coe.mpr List.perm_middle
  have hcut := Relation.cutExpand_single_add h (front ++ back : List _)
  rw [← hfront, ← hfront] at hcut
  exact hcut

/-- Polls the task of a number, if there is one. -/
def pollAt (s : Surroundings Ask Answer σ) (c : List (Task Ask Answer α) × σ) (i : Nat) :
    List (Task Ask Answer α) × σ :=
  match c.1[i]? with
  | some t => (c.1.set i (t.poll s i c.2).1, (t.poll s i c.2).2)
  | none => c

/-- Polls tasks in a given order. -/
def round (s : Surroundings Ask Answer σ) (order : List Nat) (c : List (Task Ask Answer α) × σ) :
    List (Task Ask Answer α) × σ :=
  order.foldl (pollAt s) c

/-- Polls tasks round by round, each in its order. -/
def rounds (s : Surroundings Ask Answer σ) (orders : Nat → List Nat)
    (c : List (Task Ask Answer α) × σ) : Nat → List (Task Ask Answer α) × σ
  | 0 => c
  | n + 1 => round s (orders n) (rounds s orders c n)

section Rounds

variable {c : List (Task Ask Answer α) × σ} {i : Nat} {t : Task Ask Answer α}

theorem pollAt_some (ht : c.1[i]? = some t) :
    pollAt s c i = (c.1.set i (t.poll s i c.2).1, (t.poll s i c.2).2) := by
  unfold pollAt
  rw [ht]

theorem pollAt_still (ht : ∀ t, c.1[i]? = some t → ¬ t.Stirs s i c.2) : pollAt s c i = c := by
  unfold pollAt
  split
  next t hget =>
    obtain ⟨hlt, hself⟩ := List.getElem?_eq_some_iff.mp hget
    rw [poll_still (ht t hget), ← hself, List.set_getElem_self hlt]
  next => rfl

theorem pollAt_reaches (s : Surroundings Ask Answer σ) (c : List (Task Ask Answer α) × σ)
    (i : Nat) : Reaches s c.1 c.2 (pollAt s c i).1 (pollAt s c i).2 := by
  unfold pollAt
  split
  next t ht => exact .poll .start ht
  next => exact .start

theorem round_reaches (order : List Nat) (c : List (Task Ask Answer α) × σ) :
    Reaches s c.1 c.2 (round s order c).1 (round s order c).2 := by
  induction order generalizing c with
  | nil => exact .start
  | cons i order ih => exact (pollAt_reaches s c i).trans (ih (pollAt s c i))

theorem rounds_reaches (orders : Nat → List Nat) (c : List (Task Ask Answer α) × σ) (n : Nat) :
    Reaches s c.1 c.2 (rounds s orders c n).1 (rounds s orders c n).2 := by
  induction n with
  | zero => exact .start
  | succ n ih => exact ih.trans (round_reaches (orders n) _)

theorem pollAt_moves (ht : c.1[i]? = some t) (hstirs : t.Stirs s i c.2) :
    MovedOne s (pollAt s c i).1 c.1 := by
  obtain ⟨hlt, hget⟩ := List.getElem?_eq_some_iff.mp ht
  have hmoved : Moved s (t.poll s i c.2).1 t := ⟨i, c.2, hstirs, rfl⟩
  have hsplit : c.1.take i ++ t :: c.1.drop (i + 1) = c.1 := by
    rw [← hget, List.getElem_cons_drop, List.take_append_drop]
  have hset : (pollAt s c i).1 = c.1.take i ++ (t.poll s i c.2).1 :: c.1.drop (i + 1) := by
    rw [pollAt_some ht]
    exact List.set_eq_take_append_cons_drop.trans (if_pos hlt)
  have hone := movedOne_of_moved (c.1.take i) (c.1.drop (i + 1)) hmoved
  rw [hsplit] at hone
  rw [hset]
  exact hone

theorem transGen_round (order : List Nat) (c' : List (Task Ask Answer α) × σ)
    (hmoves : MovedOne s c'.1 c.1)
    (hrest : round s order c' = c' ∨ TransGen (MovedOne s) (round s order c').1 c'.1) :
    TransGen (MovedOne s) (round s order c').1 c.1 := by
  rcases hrest with hsame | hless
  · rw [hsame]
    exact .single hmoves
  · exact hless.tail hmoves

theorem round_cases (order : List Nat) (c : List (Task Ask Answer α) × σ) :
    round s order c = c ∨ TransGen (MovedOne s) (round s order c).1 c.1 := by
  induction order generalizing c with
  | nil => exact .inl rfl
  | cons i order ih =>
    have hrest := ih (pollAt s c i)
    by_cases hstill : ∀ t, c.1[i]? = some t → ¬ t.Stirs s i c.2
    · rw [pollAt_still hstill] at hrest
      have hround : round s (i :: order) c = round s order c :=
        congrArg (round s order) (pollAt_still hstill)
      rw [hround]
      exact hrest
    · push Not at hstill
      obtain ⟨t, ht, hstirs⟩ := hstill
      exact .inr (transGen_round order _ (pollAt_moves ht hstirs) hrest)

/-- A round in which it is the turn of a task that can move moves some task. -/
theorem round_moves {order : List Nat} (hi : i ∈ order) (ht : c.1[i]? = some t)
    (hstirs : t.Stirs s i c.2) : TransGen (MovedOne s) (round s order c).1 c.1 := by
  induction order with
  | nil => cases hi
  | cons j order ih =>
    by_cases hstill : ∀ t, c.1[j]? = some t → ¬ t.Stirs s j c.2
    · have hj : i ≠ j := by
        rintro rfl
        exact hstill t ht hstirs
      have hround : round s (j :: order) c = round s order c :=
        congrArg (round s order) (pollAt_still hstill)
      rw [hround]
      exact ih ((List.mem_cons.mp hi).resolve_left hj)
    · push Not at hstill
      obtain ⟨u, hu, hmoving⟩ := hstill
      exact transGen_round order _ (pollAt_moves hu hmoving) (round_cases order (pollAt s c j))

/-- Tasks of which one can move while any is unfinished finish after finitely many rounds, if every
round polls all that are unfinished. -/
theorem exists_rounds_finished {orders : Nat → List Nat}
    (lively : ∀ ts w, Reaches s c.1 c.2 ts w → (∃ t ∈ ts, t.isFinished = false) →
      ∃ i, ∃ t : Task Ask Answer α, ts[i]? = some t ∧ t.Stirs s i w)
    (polled : ∀ n i t, (rounds s orders c n).1[i]? = some t → t.isFinished = false →
      i ∈ orders n) :
    ∃ n, ∀ t ∈ (rounds s orders c n).1, t.isFinished = true := by
  by_contra hnever
  push Not at hnever
  have hdecreases : ∀ n, TransGen (MovedOne s) (rounds s orders c (n + 1)).1
      (rounds s orders c n).1 := by
    intro n
    obtain ⟨t, ht, hopen⟩ := hnever n
    obtain ⟨i, u, hu, hstirs⟩ := lively _ _ (rounds_reaches orders c n)
      ⟨t, ht, Bool.eq_false_iff.mpr hopen⟩
    exact round_moves (polled n i u hu hstirs.unfinished) hu hstirs
  have hreached : (Set.range fun n => (rounds s orders c n).1).Nonempty := ⟨_, 0, rfl⟩
  obtain ⟨_, ⟨n, rfl⟩, hleast⟩ := (wellFounded_movedOne s).transGen.has_min _ hreached
  exact hleast _ ⟨n + 1, rfl⟩ (hdecreases n)

end Rounds

section Passes

variable {c : List (Task Ask Answer α) × σ}

theorem round_finished (order : List Nat) (h : ∀ t ∈ c.1, t.isFinished = true) :
    round s order c = c := by
  induction order with
  | nil => rfl
  | cons i order ih =>
    have hstill : pollAt s c i = c := by
      refine pollAt_still fun t ht hstirs => ?_
      have hopen := hstirs.unfinished
      rw [h t (List.mem_of_getElem? ht)] at hopen
      cases hopen
    exact (congrArg (round s order) hstill).trans ih

theorem rounds_first (order : List Nat) (c : List (Task Ask Answer α) × σ) (n : Nat) :
    rounds s (fun _ => order) c (n + 1) = rounds s (fun _ => order) (round s order c) n := by
  induction n with
  | zero => rfl
  | succ n ih => exact congrArg (round s order) ih

theorem pass_eq_round (done ts : List (Task Ask Answer α)) (w : σ) :
    (done ++ (pass s done.length ts w).1, (pass s done.length ts w).2) =
      round s (List.range' done.length ts.length) (done ++ ts, w) := by
  induction ts generalizing done w with
  | nil => rfl
  | cons t ts ih =>
    have hget : (done ++ t :: ts, w).1[done.length]? = some t := by simp
    have hset : (done ++ t :: ts).set done.length (t.poll s done.length w).1 =
        (done ++ [(t.poll s done.length w).1]) ++ ts := by simp
    have hrest := ih (done ++ [(t.poll s done.length w).1]) (t.poll s done.length w).2
    rw [List.length_append, List.length_singleton, List.append_assoc] at hrest
    rw [List.length_cons, List.range'_succ]
    unfold round at *
    rw [List.foldl_cons, pollAt_some hget, hset, ← hrest]
    rfl

/-- The scheduler's passes are rounds in the order of the tasks. -/
theorem passes_eq_rounds (n : Nat) (c : List (Task Ask Answer α) × σ) :
    passes s n c.1 c.2 = rounds s (fun _ => List.range c.1.length) c n := by
  induction n generalizing c with
  | zero => rfl
  | succ n ih =>
    rw [rounds_first, passes]
    split
    next hall =>
      have hfinished : ∀ t ∈ c.1, t.isFinished = true := List.all_eq_true.mp hall
      have hsame : round s (List.range c.1.length) c = c := round_finished _ hfinished
      have hrest := ih c
      rw [hsame, ← hrest]
      cases n with
      | zero => rfl
      | succ n =>
        unfold passes
        exact (if_pos hall).symm
    next =>
      have hpass : pass s 0 c.1 c.2 = round s (List.range c.1.length) c := by
        rw [List.range_eq_range']
        exact pass_eq_round [] c.1 c.2
      have hlength : (round s (List.range c.1.length) c).1.length = c.1.length :=
        (round_reaches _ c).length
      have hrest := ih (round s (List.range c.1.length) c)
      rw [hlength] at hrest
      rw [hpass]
      exact hrest

end Passes

end BearerSession.Task
