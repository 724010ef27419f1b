import BearerSession.Proofs.Calendar
import BearerSession.Time.Timestamp
import Mathlib.Algebra.Group.Nat.Defs

namespace BearerSession.Instant

theorem digit?_of_isDigit {c : Char} (h : c.isDigit = true) : digit? c = some (c.toNat - 48) := by
  obtain ⟨hlow, hhigh⟩ := Char.isDigit_iff_toNat.mp h
  exact if_pos (by simpa [Char.le_def, UInt32.le_iff_toNat_le] using ⟨hlow, hhigh⟩)

theorem isBlank_of_isDigit {c : Char} (h : c.isDigit = true) : isBlank c = false := by
  obtain ⟨hlow, hhigh⟩ := Char.isDigit_iff_toNat.mp h
  have hlow' : 48 ≤ c.toNat := hlow
  have hhigh' : c.toNat ≤ 57 := hhigh
  simp only [isBlank, Bool.or_eq_false_iff, Bool.and_eq_false_iff, decide_eq_false_iff_not]
  omega

/-- A text that no digit can lengthen. -/
def EndsDigits (cs : List Char) : Prop := ∀ c ∈ cs.head?, digit? c = none

theorem digitsUpTo_append {n : Nat} {ds rest : List Char} (hd : ∀ c ∈ ds, c.isDigit = true)
    (hn : ds.length ≤ n) (hrest : ds.length = n ∨ EndsDigits rest) :
    digitsUpTo n (ds ++ rest) = ds.map fun c => c.toNat - 48 := by
  induction ds generalizing n with
  | nil =>
    cases n with
    | zero => cases rest <;> rfl
    | succ n =>
      have hends := hrest.resolve_left (by simp)
      cases rest with
      | nil => rfl
      | cons c cs => simp [digitsUpTo, hends c rfl]
  | cons d ds ih =>
    cases n with
    | zero => cases hn
    | succ n =>
      have hrest' : ds.length = n ∨ EndsDigits rest := hrest.imp_left Nat.succ.inj
      have htail := ih (fun c hc => hd c (List.mem_cons_of_mem d hc)) (Nat.le_of_succ_le_succ hn) hrest'
      simp [digitsUpTo, digit?_of_isDigit (hd d List.mem_cons_self), htail]

theorem digitsValue_map (ds : List Char) :
    digitsValue (ds.map fun c => c.toNat - 48) = Nat.ofDigitChars 10 ds 0 := by
  unfold digitsValue
  rw [List.foldl_map, Nat.ofDigitChars_eq_foldl]
  congr 1
  funext n c
  rw [Nat.mul_comm]
  rfl

theorem padded_isDigit {width n : Nat} {c : Char} (h : c ∈ padded width n) : c.isDigit = true := by
  rcases List.mem_append.mp h with h | h
  · rw [List.eq_of_mem_replicate h]
    rfl
  · exact Nat.isDigit_of_mem_toDigits (by decide) (by decide) h

theorem padded_length {width n : Nat} (hw : 0 < width) (hn : n < 10 ^ width) :
    (padded width n).length = width := by
  have hle := (Nat.length_toDigits_le_iff (b := 10) (by decide) hw).mpr hn
  simp [padded]
  omega

theorem padded_ne_nil (width n : Nat) : padded width n ≠ [] := by
  simp [padded, Nat.toDigits_ne_nil]

theorem padded_value (width n : Nat) : Nat.ofDigitChars 10 (padded width n) 0 = n := by
  simp [padded, Nat.ofDigitChars_append]

theorem readNumber?_padded {width n : Nat} (hw : 0 < width) (hn : n < 10 ^ width)
    (rest : List Char) :
    readNumber? width (padded width n ++ rest) = some (n, rest) := by
  have hlen := padded_length hw hn
  have hall : ∀ c ∈ padded width n, c.isDigit = true := fun _ hc => padded_isDigit hc
  have hdigits : digitsUpTo width (padded width n ++ rest) = _ :=
    digitsUpTo_append hall (Nat.le_of_eq hlen) (.inl hlen)
  have hstart : (padded width n ++ rest).dropWhile isBlank = padded width n ++ rest := by
    cases hp : padded width n with
    | nil => exact absurd hp (padded_ne_nil width n)
    | cons c cs =>
      have hc : c.isDigit = true := padded_isDigit (by rw [hp]; exact List.mem_cons_self)
      simp [isBlank_of_isDigit hc]
  unfold readNumber?
  rw [hstart]
  dsimp only
  rw [hdigits, digitsValue_map, padded_value]
  simp [padded_ne_nil]

theorem readMark?_self (mark : Char) (hm : isBlank mark = false) (cs : List Char) :
    readMark? mark (mark :: cs) = some cs := by
  simp [readMark?, hm]

theorem digitsUpTo_padded {width n bound : Nat} {cs : List Char}
    (hb : (padded width n).length ≤ bound) (hcs : EndsDigits cs) :
    digitsUpTo bound (padded width n ++ cs) = (padded width n).map fun c => c.toNat - 48 :=
  digitsUpTo_append (fun _ hc => padded_isDigit hc) hb (.inr hcs)

theorem readYear?_minus (n : Nat) (cs : List Char) (hcs : EndsDigits cs) :
    readYear? ('-' :: (padded 4 n ++ cs)) = some (-(n : Int), cs) := by
  have hblank : isBlank '-' = false := by decide
  unfold readYear?
  rw [List.dropWhile_cons_of_neg (by simp [hblank])]
  split
  next heq =>
    cases heq
    dsimp only
    rw [digitsUpTo_padded (by simp) hcs, digitsValue_map, padded_value]
    simp [padded_ne_nil]
  next heq => simp at heq
  next hother _ => exact absurd rfl (hother _)

theorem readYear?_plus (n : Nat) (cs : List Char) (hcs : EndsDigits cs) :
    readYear? ('+' :: (padded 4 n ++ cs)) = some ((n : Int), cs) := by
  have hblank : isBlank '+' = false := by decide
  unfold readYear?
  rw [List.dropWhile_cons_of_neg (by simp [hblank])]
  split
  next heq => simp at heq
  next heq =>
    cases heq
    dsimp only
    rw [digitsUpTo_padded (by simp) hcs, digitsValue_map, padded_value]
    simp [padded_ne_nil]
  next _ hother => exact absurd rfl (hother _)

theorem readYear?_short {n : Nat} (hn : n < 10 ^ 4) (cs : List Char) :
    readYear? (padded 4 n ++ cs) = some ((n : Int), cs) := by
  have hread := readNumber?_padded (by decide) hn cs
  cases hp : padded 4 n with
  | nil => exact absurd hp (padded_ne_nil 4 n)
  | cons d ds =>
    have hd : d.isDigit = true := padded_isDigit (by rw [hp]; exact List.mem_cons_self)
    rw [hp] at hread
    unfold readYear?
    rw [List.cons_append, List.dropWhile_cons_of_neg (by simp [isBlank_of_isDigit hd])]
    split
    next heq =>
      cases heq
      cases hd
    next heq =>
      cases heq
      cases hd
    next => rw [← List.cons_append, hread]; rfl

theorem readYear?_yearText (year : Int) (cs : List Char) (hcs : EndsDigits cs) :
    readYear? (yearText year ++ cs) = some (year, cs) := by
  unfold yearText
  split
  next hshort =>
    simp only [Bool.and_eq_true, decide_eq_true_eq] at hshort
    rw [readYear?_short (by omega)]
    have hyear : (year.toNat : Int) = year := by omega
    rw [hyear]
  next =>
    split
    next hneg =>
      rw [List.cons_append, readYear?_minus year.natAbs cs hcs]
      have hyear : -(year.natAbs : Int) = year := by omega
      rw [hyear]
    next hpos =>
      rw [List.cons_append, readYear?_plus year.natAbs cs hcs]
      have hyear : (year.natAbs : Int) = year := by omega
      rw [hyear]

theorem readFraction?_padded {width n : Nat} (hw : 0 < width) (h9 : width ≤ 9) (hn : n < 10 ^ width)
    (cs : List Char) (hcs : EndsDigits cs) :
    readFraction? ('.' :: (padded width n ++ cs)) = some (n * 10 ^ (9 - width), cs) := by
  have hlen := padded_length hw hn
  have hdigits := digitsUpTo_padded (hlen ▸ h9) hcs
  have hends : cs.dropWhile (fun c => (digit? c).isSome) = cs := by
    cases cs with
    | nil => rfl
    | cons c cs => simp [hcs c rfl]
  unfold readFraction?
  split
  next heq =>
    cases heq
    dsimp only
    rw [hdigits, digitsValue_map, padded_value]
    simp [padded_ne_nil, hlen, hends]
  next hother => exact absurd rfl (hother _)

theorem readFraction?_fractionText {nano : Nat} (hn : nano < 1000000000) (cs : List Char)
    (hcs : EndsDigits cs) (hpoint : cs.head? ≠ some '.') :
    readFraction? (fractionText nano ++ cs) = some (nano, cs) := by
  unfold fractionText
  split
  next hzero =>
    rw [List.nil_append, hzero]
    unfold readFraction?
    split
    next => simp at hpoint
    next => rfl
  next =>
    split
    next hmilli =>
      rw [List.cons_append, readFraction?_padded (by decide) (by decide) (by omega) cs hcs]
      congr 2
      omega
    next =>
      split
      next hmicro =>
        rw [List.cons_append, readFraction?_padded (by decide) (by decide) (by omega) cs hcs]
        congr 2
        omega
      next =>
        rw [List.cons_append, readFraction?_padded (by decide) (by decide) (by omega) cs hcs]
        congr 2
        omega

theorem ofParts?_eq {t : Instant} {date : Date} {hour minute second : Nat}
    (hdate : date.isValid = true) (hh : hour ≤ 23) (hm : minute ≤ 59) (hs : second ≤ 59)
    (hwall : date.toDays * 86400 + hour * 3600 + minute * 60 + second = t.second) :
    ofParts? date hour minute second t.nano 0 = some t := by
  have hsecond : second ≠ 60 := by omega
  have hlower : leastSecond ≤ t.second := t.lower
  have hupper : t.second ≤ greatestSecond := t.upper
  unfold ofParts?
  simp only [hsecond, if_false, hwall, Int.sub_zero]
  rw [dif_pos ⟨hdate, hh, hm, hs, t.nano_lt, ⟨hlower, hupper⟩, hlower, hupper⟩]

theorem monthLength_le (year : Int) (month : Nat) : Date.monthLength year month ≤ 31 := by
  unfold Date.monthLength
  split
  · split <;> decide
  · split <;> decide

/-- A date, a time of day and a fraction are read back from their text. -/
theorem read?_written {date : Date} {hour minute second nano : Nat} (hmonth : date.month < 100)
    (hday : date.day < 100) (hh : hour < 100) (hm : minute < 100) (hs : second < 100)
    (hn : nano < 1000000000) :
    read? (yearText date.year ++ ['-'] ++ padded 2 date.month ++ ['-'] ++ padded 2 date.day
        ++ ['T'] ++ padded 2 hour ++ [':'] ++ padded 2 minute ++ [':'] ++ padded 2 second
        ++ fractionText nano ++ ['Z']) =
      ofParts? date hour minute second nano 0 := by
  have hends : ∀ c cs, digit? c = none → EndsDigits (c :: cs) := by
    rintro c cs hc d hd
    cases hd
    exact hc
  have hfraction : readFraction? (fractionText nano ++ ['Z']) = some (nano, ['Z']) :=
    readFraction?_fractionText hn _ (hends _ _ (by decide)) (by decide)
  have hminus : isBlank '-' = false := by decide
  have hcolon : isBlank ':' = false := by decide
  simp only [List.append_assoc, List.cons_append, List.nil_append]
  unfold read?
  rw [readYear?_yearText _ _ (hends _ _ (by decide))]
  simp only [Option.bind_eq_bind, Option.bind_some, readMark?_self _ hminus]
  rw [readNumber?_padded (by decide) hmonth]
  simp only [Option.bind_some, readMark?_self _ hminus]
  rw [readNumber?_padded (by decide) hday]
  simp only [Option.bind_some, decide_true, Bool.true_or, if_true]
  rw [readNumber?_padded (by decide) hh]
  simp only [Option.bind_some, readMark?_self _ hcolon]
  rw [readNumber?_padded (by decide) hm]
  simp only [Option.bind_some, readMark?_self _ hcolon]
  rw [readNumber?_padded (by decide) hs]
  simp only [Option.bind_some, hfraction]
  rfl

/-- Whether a leap second is the last second of a minute, as every one that is read is. -/
def IsRegular (t : Instant) : Prop := 1000000000 ≤ t.nano → t.second % 60 = 59

/-- A point in time is read back from its text. -/
theorem IsRegular.read?_text {t : Instant} (h : t.IsRegular) : read? t.text.toList = some t := by
  obtain ⟨hvalid, hdays⟩ := Date.ofDays_spec (t.second / 86400)
  have hdate := hvalid
  simp only [Date.isValid, Bool.and_eq_true, decide_eq_true_eq] at hdate
  obtain ⟨⟨⟨-, hmonth⟩, -⟩, hday⟩ := hdate
  have hday' := Nat.le_trans hday (monthLength_le _ _)
  have hrest : (t.second % 86400).toNat < 86400 := by omega
  have hnano := t.nano_lt
  unfold text
  by_cases hleap : 1000000000 ≤ t.nano
  · have hsecond := h hleap
    rw [if_pos hleap]
    dsimp only
    rw [String.toList_ofList, read?_written (by omega) (by omega) (by omega) (by omega) (by omega)
      (by omega)]
    have hshown : (t.second % 86400).toNat % 60 + 1 = 60 := by omega
    have hwhole : t.nano - 1000000000 + 1000000000 = t.nano := by omega
    have hparts : ofParts? (Date.ofDays (t.second / 86400)) ((t.second % 86400).toNat / 3600)
        ((t.second % 86400).toNat / 60 % 60) 59 t.nano 0 = some t := by
      refine ofParts?_eq hvalid (by omega) (by omega) (by omega) ?_
      rw [hdays]
      omega
    rw [hshown, ← hparts]
    unfold ofParts?
    simp [hwhole]
  · rw [if_neg hleap]
    dsimp only
    rw [Nat.add_zero, String.toList_ofList, read?_written (by omega) (by omega) (by omega)
      (by omega) (by omega) (by omega)]
    refine ofParts?_eq hvalid (by omega) (by omega) (by omega) ?_
    rw [hdays]
    omega

/-- Outside leap seconds every point in time is regular. -/
theorem isRegular_of_nano_lt {t : Instant} (h : t.nano < 1000000000) : t.IsRegular :=
  fun hleap => absurd h (Nat.not_lt.mpr hleap)

theorem digitsUpTo_le (n : Nat) (cs : List Char) : ∀ d ∈ digitsUpTo n cs, d ≤ 9 := by
  fun_induction digitsUpTo n cs with
  | case1 => exact fun d hd => nomatch hd
  | case2 => exact fun d hd => nomatch hd
  | case3 n c cs d hdigit ih =>
    intro x hx
    rcases List.mem_cons.mp hx with rfl | hx
    · unfold digit? at hdigit
      split at hdigit
      next hrange =>
        cases hdigit
        have hhigh : c.toNat ≤ 57 := by
          simp only [Bool.and_eq_true, decide_eq_true_eq] at hrange
          exact hrange.2
        omega
      next => cases hdigit
    · exact ih x hx
  | case4 => exact fun d hd => nomatch hd

theorem digitsUpTo_length (n : Nat) (cs : List Char) : (digitsUpTo n cs).length ≤ n := by
  fun_induction digitsUpTo n cs with
  | case3 n c cs d hdigit ih => exact Nat.succ_le_succ ih
  | _ => exact Nat.zero_le _

theorem digitsValue_lt {ds : List Nat} (hds : ∀ d ∈ ds, d ≤ 9) : digitsValue ds < 10 ^ ds.length := by
  have hfold : ∀ n, ds.foldl (fun n d => n * 10 + d) n < (n + 1) * 10 ^ ds.length := by
    induction ds with
    | nil => simp
    | cons d ds ih =>
      intro n
      have hd := hds d List.mem_cons_self
      have hrest := ih (fun x hx => hds x (List.mem_cons_of_mem d hx)) (n * 10 + d)
      calc (d :: ds).foldl (fun n d => n * 10 + d) n
          < (n * 10 + d + 1) * 10 ^ ds.length := hrest
        _ ≤ ((n + 1) * 10) * 10 ^ ds.length := Nat.mul_le_mul_right _ (by omega)
        _ = (n + 1) * 10 ^ (d :: ds).length := by
          rw [List.length_cons, Nat.pow_succ, Nat.mul_assoc, Nat.mul_comm 10]
  simpa [digitsValue] using hfold 0

theorem readFraction?_lt {cs rest : List Char} {nano : Nat}
    (h : readFraction? cs = some (nano, rest)) : nano < 1000000000 := by
  unfold readFraction? at h
  split at h
  next cs =>
    dsimp only at h
    split at h
    next => cases h
    next =>
      cases h
      have hlen := digitsUpTo_length 9 cs
      calc digitsValue (digitsUpTo 9 cs) * Nat.pow 10 (9 - (digitsUpTo 9 cs).length)
          < 10 ^ (digitsUpTo 9 cs).length * 10 ^ (9 - (digitsUpTo 9 cs).length) :=
            Nat.mul_lt_mul_of_pos_right (digitsValue_lt (digitsUpTo_le 9 cs))
              (Nat.pow_pos (by decide))
        _ = 10 ^ 9 := by rw [← Nat.pow_add, Nat.add_sub_cancel' hlen]
        _ = 1000000000 := rfl
  next =>
    cases h
    decide

theorem readOffsetSize?_mod {cs rest : List Char} {n : Nat}
    (h : readOffsetSize? cs = some (n, rest)) : n % 60 = 0 := by
  unfold readOffsetSize? at h
  split at h
  next =>
    simp only [Option.bind_eq_bind, Option.bind_eq_some_iff] at h
    obtain ⟨a, -, b, -, h⟩ := h
    split at h
    next =>
      simp only [Option.bind_eq_some_iff] at h
      obtain ⟨a', -, b', -, h⟩ := h
      split at h
      next =>
        cases h
        omega
      next => cases h
    next => cases h
  next => cases h

/-- An offset is a number of minutes. -/
theorem readOffset?_mod {cs rest : List Char} {offset : Int}
    (h : readOffset? cs = some (offset, rest)) : offset % 60 = 0 := by
  unfold readOffset? at h
  split at h
  next => cases h
  next =>
    split at h
    next => cases h; rfl
    next =>
      split at h
      next => cases h; rfl
      next =>
        split at h
        next =>
          obtain ⟨⟨n, rest'⟩, hn, heq⟩ := Option.map_eq_some_iff.mp h
          cases heq
          have hmod := readOffsetSize?_mod hn
          omega
        next =>
          split at h
          next =>
            obtain ⟨⟨n, rest'⟩, hn, heq⟩ := Option.map_eq_some_iff.mp h
            cases heq
            have hmod := readOffsetSize?_mod hn
            omega
          next => cases h

theorem ofParts?_isRegular {date : Date} {hour minute second nano : Nat} {offset : Int} {t : Instant}
    (hnano : nano < 1000000000) (hoffset : offset % 60 = 0)
    (h : ofParts? date hour minute second nano offset = some t) : t.IsRegular := by
  unfold ofParts? at h
  by_cases hleap : second = 60
  · simp only [hleap, if_true] at h
    split at h
    next =>
      cases h
      intro _
      dsimp only
      omega
    next => cases h
  · simp only [hleap, if_false] at h
    split at h
    next =>
      cases h
      intro hlong
      dsimp only at hlong
      omega
    next => cases h

/-- Whatever is read is read back from its text. -/
theorem read?_isRegular {cs : List Char} {t : Instant} (h : read? cs = some t) : t.IsRegular := by
  unfold read? at h
  obtain ⟨⟨year, _⟩, -, h⟩ := Option.bind_eq_some_iff.mp h
  obtain ⟨_, -, h⟩ := Option.bind_eq_some_iff.mp h
  obtain ⟨⟨month, _⟩, -, h⟩ := Option.bind_eq_some_iff.mp h
  obtain ⟨_, -, h⟩ := Option.bind_eq_some_iff.mp h
  obtain ⟨⟨day, _⟩, -, h⟩ := Option.bind_eq_some_iff.mp h
  dsimp only at h
  split at h
  next =>
    split at h
    next =>
      obtain ⟨_, -, h⟩ := Option.bind_eq_some_iff.mp h
      obtain ⟨⟨hour, _⟩, -, h⟩ := Option.bind_eq_some_iff.mp h
      obtain ⟨_, -, h⟩ := Option.bind_eq_some_iff.mp h
      obtain ⟨⟨minute, _⟩, -, h⟩ := Option.bind_eq_some_iff.mp h
      obtain ⟨_, -, h⟩ := Option.bind_eq_some_iff.mp h
      obtain ⟨⟨second, _⟩, -, h⟩ := Option.bind_eq_some_iff.mp h
      obtain ⟨⟨nano, _⟩, hfraction, h⟩ := Option.bind_eq_some_iff.mp h
      obtain ⟨⟨offset, _⟩, hoffset, h⟩ := Option.bind_eq_some_iff.mp h
      dsimp only at h
      split at h
      next => exact ofParts?_isRegular (readFraction?_lt hfraction) (readOffset?_mod hoffset) h
      next => cases h
    next => cases h
  next => cases h

end BearerSession.Instant
