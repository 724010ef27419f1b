import BearerSession.Time.Instant

namespace BearerSession.Instant

theorem lt_iff (a b : Instant) :
    a < b ↔ a.second < b.second ∨ a.second = b.second ∧ a.nano < b.nano := by
  show a.isBefore b = true ↔ _
  simp [isBefore]

theorem not_lt_self (a : Instant) : ¬ a < a := by
  rw [lt_iff]
  omega

theorem not_lt_of_lt {a b : Instant} (h : a < b) : ¬ b < a := by
  rw [lt_iff] at *
  omega

theorem lt_of_not_lt_of_lt {a b c : Instant} (hab : ¬ b < a) (hbc : b < c) : a < c := by
  rw [lt_iff] at *
  omega

theorem lt_of_lt_of_not_lt {a b c : Instant} (hab : a < b) (hbc : ¬ c < b) : a < c := by
  rw [lt_iff] at *
  omega

/-- No sum is within a leap second. -/
theorem plus_nano_lt (t : Instant) (s : Span) : (t.plus s).nano < 1000000000 := by
  unfold plus ofNanos?
  split
  next u hu =>
    split at hu
    · cases hu
      show ((t.nanos + s.nanos) % 1000000000).toNat < 1000000000
      omega
    · cases hu
  next => split <;> decide

theorem nanos_plus (t : Instant) (s : Span) (ht : t.nano < 1000000000) :
    (t.plus s).nanos = max least.nanos (min greatest.nanos (t.nanos + s.nanos)) := by
  have hleast : least.nanos = -8334601228800 * 1000000000 := rfl
  have hgreatest : greatest.nanos = 8210266876799 * 1000000000 + 999999999 := rfl
  have hlower := t.lower
  have hupper := t.upper
  have hnanos : t.nanos = t.second * 1000000000 + t.nano := rfl
  unfold plus ofNanos?
  split
  next u hu =>
    split at hu
    next hrange =>
      cases hu
      show (t.nanos + s.nanos) / 1000000000 * 1000000000 +
        ((t.nanos + s.nanos) % 1000000000).toNat = _
      omega
    next => cases hu
  next hu =>
    split at hu
    next => cases hu
    next hrange =>
      split <;> omega

/-- A longer span leads no less far. -/
theorem plus_mono {s s' : Span} (t : Instant) (hs : 0 ≤ s.nanos) (h : s.nanos ≤ s'.nanos) :
    ¬ t.plus s' < t.plus s := by
  have hlower := t.lower
  have hnanos : t.nanos = t.second * 1000000000 + t.nano := rfl
  have hsecond : greatest.second = 8210266876799 := rfl
  have hnano : greatest.nano = 999999999 := rfl
  have hnotLess : ¬ s.nanos < 0 := by omega
  have hnotLess' : ¬ s'.nanos < 0 := by omega
  unfold plus ofNanos?
  rw [if_neg hnotLess, if_neg hnotLess', lt_iff]
  by_cases hin : -8334601228800 ≤ (t.nanos + s.nanos) / 1000000000 ∧
      (t.nanos + s.nanos) / 1000000000 ≤ 8210266876799
  · rw [dif_pos hin]
    dsimp only
    split
    next u hu =>
      split at hu
      next => cases hu; dsimp only; omega
      next => cases hu
    next => omega
  · have hout : ¬ (-8334601228800 ≤ (t.nanos + s'.nanos) / 1000000000 ∧
        (t.nanos + s'.nanos) / 1000000000 ≤ 8210266876799) := by omega
    rw [dif_neg hin, dif_neg hout]
    dsimp only
    omega

/-- A sum within the range is exact. -/
theorem nanos_plus_of_le {t : Instant} {s : Span} (hs : 0 ≤ s.nanos)
    (hsum : t.nanos + s.nanos ≤ greatest.nanos) : (t.plus s).nanos = t.nanos + s.nanos := by
  have hgreatest : greatest.nanos = 8210266876799 * 1000000000 + 999999999 := rfl
  have hlower := t.lower
  have hnanos : t.nanos = t.second * 1000000000 + t.nano := rfl
  unfold plus ofNanos?
  rw [dif_pos ⟨by omega, by omega⟩]
  show (t.nanos + s.nanos) / 1000000000 * 1000000000 +
    ((t.nanos + s.nanos) % 1000000000).toNat = _
  omega

end BearerSession.Instant
