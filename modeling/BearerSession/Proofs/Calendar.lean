import BearerSession.Time.Calendar

namespace BearerSession.Date

/-- The year of an era of 400 years that a day of the era belongs to. -/
theorem yearOfEra_bounds {day q e f y b c : Nat} (h : day < 146097) (hq : q = day / 1460)
    (he : e = day / 36524) (hf : f = day / 146096) (hy : y = (day - q + e - f) / 365)
    (hb : b = y / 4) (hc : c = y / 100) :
    y < 400 ∧ 365 * y + b - c ≤ day ∧ day ≤ 365 * y + b - c + 365 ∧
      (day = 365 * y + b - c + 365 → (y + 1) % 4 = 0 ∧ ((y + 1) % 100 ≠ 0 ∨ y = 399)) := by
  have hlt : y < 400 := by omega
  have hcentury : e - f = c := by
    have hle : e - f ≤ c := by omega
    have hge : c ≤ e := by omega
    omega
  have hleap : q = b ∨ q = b + 1 := by
    have hle : b ≤ q := by omega
    omega
  rcases hleap with hleap | hleap
  · exact ⟨hlt, by omega, by omega, by omega⟩
  · refine ⟨hlt, by omega, by omega, fun hlast => ⟨?_, by omega⟩⟩
    have hfour : 1460 * (b + 1) ≤ day := by omega
    have hquarter : y = 4 * b ∨ y = 4 * b + 1 ∨ y = 4 * b + 2 ∨ y = 4 * b + 3 := by omega
    clear hq he hf hy hb hcentury hleap
    omega

theorem month_bounds {day m : Nat} (h : day ≤ 365) (hm : m = (5 * day + 2) / 153) :
    m < 12 ∧ (153 * m + 2) / 5 ≤ day ∧ day < (153 * m + 2) / 5 + 31 ∧
      (m = 1 ∨ m = 3 ∨ m = 6 ∨ m = 8 → day < (153 * m + 2) / 5 + 30) := by
  omega

variable {era : Int} {y day m month : Nat}

theorem toDays_mk (hy : y < 400) (hday : day ≤ 365) (hm : m = (5 * day + 2) / 153)
    (hmonth : month = if m < 10 then m + 3 else m - 9) :
    toDays ⟨y + era * 400 + (if month ≤ 2 then 1 else 0), month, day - (153 * m + 2) / 5 + 1⟩ =
      era * 146097 + (365 * y + y / 4 - y / 100 + day : Nat) - 719468 := by
  obtain ⟨hlt, hstart, -, -⟩ := month_bounds hday hm
  have hindex : (month + 9) % 12 = m := by
    split at hmonth <;> omega
  have hyear : (if month ≤ 2 then (y + era * 400 + if month ≤ 2 then 1 else 0) - 1
      else y + era * 400 + if month ≤ 2 then 1 else 0 : Int) = y + era * 400 := by
    split <;> omega
  unfold toDays
  dsimp only
  rw [hyear]
  have hindex' : ((month : Int) + 9) % 12 = m := by omega
  rw [hindex']
  omega

theorem isValid_mk (hday : day ≤ 365) (hm : m = (5 * day + 2) / 153)
    (hmonth : month = if m < 10 then m + 3 else m - 9)
    (hleap : day = 365 → (y + 1) % 4 = 0 ∧ ((y + 1) % 100 ≠ 0 ∨ y = 399)) :
    isValid ⟨y + era * 400 + (if month ≤ 2 then 1 else 0), month, day - (153 * m + 2) / 5 + 1⟩ := by
  obtain ⟨hlt, hstart, hlong, hshort⟩ := month_bounds hday hm
  have hm12 : 1 ≤ month ∧ month ≤ 12 := by
    split at hmonth <;> omega
  have hlength : day - (153 * m + 2) / 5 + 1 ≤
      monthLength (y + era * 400 + (if month ≤ 2 then 1 else 0)) month := by
    unfold monthLength
    split
    · have heleven : m = 11 := by
        split at hmonth <;> omega
      by_cases hlast : day = 365
      · obtain ⟨hfour, hcentury⟩ := hleap hlast
        have hl : isLeap (y + era * 400 + if month ≤ 2 then 1 else 0) = true := by
          simp only [isLeap, Bool.and_eq_true, Bool.or_eq_true, decide_eq_true_eq]
          split <;> omega
        rw [if_pos hl]
        omega
      · have hshorter : day - (153 * m + 2) / 5 + 1 ≤ 28 := by omega
        refine Nat.le_trans hshorter ?_
        generalize isLeap _ = leap
        cases leap <;> decide
    · split
      next hthirty =>
        simp only [Bool.or_eq_true, decide_eq_true_eq] at hthirty
        split at hmonth <;> omega
      next => omega
  simp [isValid, hm12, hlength]


/-- The day of a number is a day of that number. -/
theorem ofDays_spec (n : Int) : (ofDays n).isValid = true ∧ (ofDays n).toDays = n := by
  have hday : ((n + 719468) % 146097).toNat < 146097 := by omega
  obtain ⟨hy, hle, hge, hleap⟩ := yearOfEra_bounds hday rfl rfl rfl rfl rfl rfl
  unfold ofDays
  dsimp only
  generalize (((n + 719468) % 146097).toNat - ((n + 719468) % 146097).toNat / 1460 +
    ((n + 719468) % 146097).toNat / 36524 - ((n + 719468) % 146097).toNat / 146096) / 365 = y at *
  generalize hd : ((n + 719468) % 146097).toNat - (365 * y + y / 4 - y / 100) = day
  have hlast : day ≤ 365 := by omega
  refine ⟨isValid_mk hlast rfl rfl fun h => hleap (by omega), ?_⟩
  refine (toDays_mk hy hlast rfl rfl).trans ?_
  omega

end BearerSession.Date
