import BearerSession.Proofs.GateHistory

namespace BearerSession

/-- What a moment may be after a history: tasks arrive once, with a ticket just read; refreshes are
counted and the latest outcome is kept; they begin when no other is in progress and none was missed,
and only a refresh in progress finishes. -/
structure Moment.Fits (m : Moment) (h : List Moment) : Prop where
  once : ∀ i, m.arrives i = true → (passage i h).arrived = false
  tickets : ∀ i, m.arrives i = true →
    ∃ earlier, h = ⟨i, .completed, (outcomes earlier).length⟩ :: earlier
  counts : ∀ i a, m = ⟨i, .completed, a⟩ → a = (outcomes h).length
  looks : ∀ i a, m = ⟨i, .last, a⟩ → a = (outcomes h).head?
  begins : m.call.begins = true → (passage m.task h).arrived = true ∧ missed m.task h = [] ∧
    ∀ i, InProgress i h → i = m.task
  finishes : m.call.outcome? ≠ none → InProgress m.task h

/-- A history in which every moment fits. -/
def Orderly (h : List Moment) : Prop := ∀ m before, m :: before <:+ h → m.Fits before

section Orderly

variable {i j : Nat} {m : Moment} {h h' : List Moment}

theorem orderly_nil : Orderly [] := by
  intro m before hs
  simp at hs

theorem orderly_cons (hm : m.Fits h) (ho : Orderly h) : Orderly (m :: h) := by
  intro m' before hs
  rcases List.suffix_cons_iff.mp hs with he | hs
  · cases he
    exact hm
  · exact ho m' before hs

theorem Orderly.suffix (ho : Orderly h) (hs : h' <:+ h) : Orderly h' :=
  fun m before hm => ho m before (hm.trans hs)

theorem Orderly.fits (ho : Orderly (m :: h)) : m.Fits h := ho m h List.suffix_rfl

theorem Orderly.tail (ho : Orderly (m :: h)) : Orderly h := ho.suffix (List.suffix_cons m h)

theorem passage_arrived_cons :
    (passage i (m :: h)).arrived = (m.arrives i || (passage i h).arrived) := by
  obtain ⟨j, c, a⟩ := m
  by_cases hj : j = i
  · rw [passage_own hj]
    cases c <;> simp [Passage.after, Moment.arrives, hj]
  · rw [passage_other hj]
    cases c <;> simp [Moment.arrives, hj]

theorem passage_begun_cons :
    (passage i (m :: h)).begun = ((passage i h).begun || decide (m.task = i) && m.call.begins) := by
  obtain ⟨j, c, a⟩ := m
  by_cases hj : j = i
  · rw [passage_own hj]
    cases c <;> simp [Passage.after, Call.begins, hj]
  · rw [passage_other hj]
    simp [hj]

theorem passage_finished_cons :
    (passage i (m :: h)).finished =
      ((passage i h).finished || decide (m.task = i) && m.call.outcome?.isSome) := by
  obtain ⟨j, c, a⟩ := m
  by_cases hj : j = i
  · rw [passage_own hj]
    cases c <;> simp [Passage.after, Call.outcome?, hj]
  · rw [passage_other hj]
    simp [hj]

theorem outcome?_of_begins (hm : m.call.begins = true) : m.call.outcome? = none := by
  obtain ⟨j, c, a⟩ := m
  cases c <;> simp_all [Call.begins, Call.outcome?]

theorem outcomes_of_finished (hf : (passage i h).finished = true) : outcomes h ≠ [] := by
  induction h with
  | nil => cases hf
  | cons m h ih =>
    rw [passage_finished_cons] at hf
    rw [outcomes_cons]
    intro hn
    obtain ⟨hm, hn⟩ := List.append_eq_nil_iff.mp hn
    rw [Option.toList_eq_nil_iff.mp hm] at hf
    exact ih (by simpa using hf) hn

theorem inProgress_cons (hp : InProgress i (m :: h)) :
    InProgress i h ∨ m.task = i ∧ m.call.begins = true := by
  obtain ⟨hb, hf⟩ := hp
  rw [passage_begun_cons] at hb
  rw [passage_finished_cons] at hf
  obtain ⟨hf, -⟩ := Bool.or_eq_false_iff.mp hf
  rcases Bool.or_eq_true_iff.mp hb with hb | hb
  · exact .inl ⟨hb, hf⟩
  · obtain ⟨ht, hb⟩ := Bool.and_eq_true_iff.mp hb
    exact .inr ⟨of_decide_eq_true ht, hb⟩

/-- No two refreshes are in progress together. -/
theorem Orderly.inProgress_unique (ho : Orderly h) (hi : InProgress i h) (hj : InProgress j h) :
    i = j := by
  induction h with
  | nil => cases hi.1
  | cons m h ih =>
    rcases inProgress_cons hi with hi | ⟨rfl, hb⟩
    · rcases inProgress_cons hj with hj | ⟨rfl, hb⟩
      · exact ih ho.tail hi hj
      · exact (ho.fits.begins hb).2.2 i hi
    · rcases inProgress_cons hj with hj | ⟨rfl, -⟩
      · exact ((ho.fits.begins hb).2.2 j hj).symm
      · rfl

theorem finished_tillArrival (hf : (passage i h).finished = true) (hm : missed j h = []) :
    (passage i (tillArrival j h)).finished = true := by
  induction h with
  | nil => cases hf
  | cons m h ih =>
    rw [passage_finished_cons] at hf
    cases ha : m.arrives j with
    | true =>
      rw [arrives_outcome ha] at hf
      rw [tillArrival_arrival ha]
      simpa using hf
    | false =>
      rw [missed_cons ha] at hm
      obtain ⟨hn, hm⟩ := List.append_eq_nil_iff.mp hm
      rw [Option.toList_eq_nil_iff.mp hn] at hf
      rw [tillArrival_cons ha]
      exact ih (by simpa using hf) hm

/-- Who begins a refresh arrived after every other refresh had finished. -/
theorem Orderly.begun_finished (ho : Orderly h) (hs : m :: h' <:+ h) (hm : m.call.begins = true)
    (hb : (passage i h').begun = true) (hi : i ≠ m.task) :
    (passage i (tillArrival m.task h')).finished = true := by
  obtain ⟨-, hmissed, hothers⟩ := (ho m h' hs).begins hm
  refine finished_tillArrival ?_ hmissed
  cases hf : (passage i h').finished with
  | true => rfl
  | false => exact absurd (hothers i ⟨hb, hf⟩) hi

theorem Orderly.arrives_false (ho : Orderly (m :: h)) (ha : (passage i h).arrived = true) :
    m.arrives i = false := by
  cases hm : m.arrives i with
  | false => rfl
  | true => cases ha.symm.trans (ho.fits.once i hm)

theorem arrived_append (late : List Moment) (ha : (passage i h).arrived = true) :
    (passage i (late ++ h)).arrived = true := by
  induction late with
  | nil => exact ha
  | cons m late ih => rw [List.cons_append, passage_arrived_cons, ih, Bool.or_true]

/-- Who has arrived misses all that finishes from then on. -/
theorem Orderly.missed_append {late : List Moment} (ho : Orderly (late ++ h))
    (ha : (passage i h).arrived = true) : missed i (late ++ h) = outcomes late ++ missed i h := by
  induction late with
  | nil => rfl
  | cons m late ih =>
    have hm := ho.arrives_false (arrived_append late ha)
    rw [List.cons_append, missed_cons hm, ih ho.tail, outcomes_cons, List.append_assoc]

theorem begun_append (late : List Moment) (hb : (passage i h).begun = true) :
    (passage i (late ++ h)).begun = true := by
  induction late with
  | nil => exact hb
  | cons m late ih => rw [List.cons_append, passage_begun_cons, ih, Bool.true_or]

theorem finished_of_mem {o : RefreshOutcome} (hm : m ∈ h) (ho : m.call.outcome? = some o) :
    (passage m.task h).finished = true := by
  induction h with
  | nil => cases hm
  | cons m' h ih =>
    rw [passage_finished_cons]
    rcases List.mem_cons.mp hm with rfl | hm
    · simp [ho]
    · rw [ih hm, Bool.true_or]

/-- A task finishes one refresh at most. -/
theorem Orderly.outcome_unique {m' : Moment} {o o' : RefreshOutcome} (ho : Orderly h) (hm : m ∈ h)
    (hm' : m' ∈ h) (ht : m.task = m'.task) (hc : m.call.outcome? = some o)
    (hc' : m'.call.outcome? = some o') : o = o' := by
  induction h with
  | nil => cases hm
  | cons m'' h ih =>
    have hopen : m''.call.outcome? ≠ none → (passage m''.task h).finished = false :=
      fun hn => (ho.fits.finishes hn).2
    rcases List.mem_cons.mp hm with rfl | hold
    · rcases List.mem_cons.mp hm' with rfl | hold'
      · exact Option.some.inj (hc.symm.trans hc')
      · have hclosed := finished_of_mem hold' hc'
        rw [← ht, hopen (by simp [hc])] at hclosed
        cases hclosed
    · rcases List.mem_cons.mp hm' with rfl | hold'
      · have hclosed := finished_of_mem hold hc
        rw [ht, hopen (by simp [hc'])] at hclosed
        cases hclosed
      · exact ih ho.tail hold hold'

theorem missed_of_outcomes (hn : outcomes h = []) : missed i h = [] := by
  rw [outcomes_missed i h] at hn
  exact (List.append_eq_nil_iff.mp hn).1

theorem Orderly.missed_first_append {late : List Moment} {o : RefreshOutcome}
    (ho : Orderly (late ++ m :: h)) (hm : m.call.outcome? = some o) (hn : outcomes h = [])
    (ha : (passage i h).arrived = true) : missed i (late ++ m :: h) = outcomes late ++ [o] := by
  have hfirst : Orderly (m :: h) := ho.suffix (List.suffix_append late _)
  rw [ho.missed_append (arrived_append [m] ha), missed_cons (hfirst.arrives_false ha), hm,
    missed_of_outcomes hn]
  rfl

/-- Of those who arrive before the first refresh finishes, only its own caller refreshes. -/
theorem Orderly.begun_iff_first {late : List Moment} {o : RefreshOutcome}
    (ho : Orderly (late ++ m :: h)) (hm : m.call.outcome? = some o) (hn : outcomes h = [])
    (ha : (passage i h).arrived = true) :
    (passage i (late ++ m :: h)).begun = true ↔ i = m.task := by
  have hfits : m.Fits h := (ho.suffix (List.suffix_append late _)).fits
  have hfirst : InProgress m.task h := hfits.finishes (by simp [hm])
  constructor
  · intro hb
    induction late with
    | nil =>
      have hp : InProgress i h := by
        constructor
        · have hnot : m.call.begins = false := by
            cases hc : m.call.begins with
            | false => rfl
            | true => cases hm.symm.trans (outcome?_of_begins hc)
          simpa [passage_begun_cons, hnot] using hb
        · cases hf : (passage i h).finished with
          | false => rfl
          | true => exact absurd hn (outcomes_of_finished hf)
      exact (ho.suffix (List.suffix_cons m h)).inProgress_unique hp hfirst
    | cons m' late ih =>
      rw [List.cons_append, passage_begun_cons] at hb
      rcases Bool.or_eq_true_iff.mp hb with hb | hb
      · exact ih ho.tail hb
      · obtain ⟨ht, hb⟩ := Bool.and_eq_true_iff.mp hb
        obtain ⟨-, hmissed, -⟩ := ho.fits.begins hb
        rw [of_decide_eq_true ht] at hmissed
        have hlate := ho.tail.missed_first_append hm hn ha
        have hnone := hlate.symm.trans hmissed
        simp at hnone
  · rintro rfl
    exact begun_append late (begun_append [m] hfirst.1)

/-- Who waited for one refresh after arriving before the first one finished, waited for that. -/
theorem Orderly.missed_first {late rest : List Moment} {o o' : RefreshOutcome}
    (ho : Orderly (late ++ m :: h)) (hm : m.call.outcome? = some o) (hn : outcomes h = [])
    (ha : (passage i h).arrived = true) (hs : rest <:+ late ++ m :: h)
    (hw : missed i rest = [o']) : o' = o := by
  rcases List.suffix_or_suffix_of_suffix hs (List.suffix_append late (m :: h)) with hle | hle
  · rcases List.suffix_cons_iff.mp hle with rfl | hle
    · have hfirst : Orderly ([] ++ m :: h) := ho.suffix (List.suffix_append late _)
      have hmiss := hfirst.missed_first_append hm hn ha
      rw [List.nil_append, hw] at hmiss
      simpa using hmiss
    · obtain ⟨older, rfl⟩ := hle
      rw [outcomes_append] at hn
      rw [missed_of_outcomes (List.append_eq_nil_iff.mp hn).2] at hw
      cases hw
  · obtain ⟨between, rfl⟩ := hle
    have hmiss := (ho.suffix hs).missed_first_append hm hn ha
    rw [hw] at hmiss
    cases hb : outcomes between with
    | nil => simpa [hb] using hmiss
    | cons x xs => simp [hb] at hmiss

end Orderly

end BearerSession
