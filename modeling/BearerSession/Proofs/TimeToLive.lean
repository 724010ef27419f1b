import BearerSession.Store.Entry

namespace BearerSession

variable {days : Int} {ttl : Span}

theorem ttlOfDays_eq_ok_iff :
    ttlOfDays days = .ok ttl ↔
      (1 ≤ days ∧ days ≤ 3650) ∧ ttl.nanos = 86400 * days * 1000000000 := by
  unfold ttlOfDays
  constructor
  · intro h
    split at h
    next hdays =>
      cases h
      refine ⟨hdays, ?_⟩
      dsimp only
      omega
    next => cases h
  · rintro ⟨hdays, hnanos⟩
    have hallowed : 1 ≤ days ∧ days ≤ maxTtlDays := hdays
    rw [dif_pos hallowed]
    obtain ⟨n, lower, upper⟩ := ttl
    simp only [Except.ok.injEq, Span.mk.injEq]
    dsimp only at hnanos
    omega

theorem ttlOfDays_cases (days : Int) :
    if 1 ≤ days ∧ days ≤ 3650 then ∃ ttl, ttlOfDays days = .ok ttl
    else ttlOfDays days = .error (.invalidTtl days) := by
  split
  next h => exact ⟨_, dif_pos h⟩
  next h => exact dif_neg h

theorem seconds_of_days (h : ttlOfDays days = .ok ttl) : ttl.seconds = 86400 * days := by
  obtain ⟨hdays, hnanos⟩ := ttlOfDays_eq_ok_iff.mp h
  unfold Span.seconds
  rw [hnanos]
  exact Int.mul_tdiv_cancel _ (by decide)

end BearerSession
