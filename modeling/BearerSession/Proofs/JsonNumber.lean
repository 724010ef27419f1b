import BearerSession.Proofs.JsonString
import Mathlib.Algebra.Group.Nat.Defs

namespace BearerSession.Json

section Numbers

/-- A text that cannot lengthen a number before it. -/
def EndsNumber (gs : List Glyph) : Prop :=
  ∀ g ∈ gs.head?, digit? g = none ∧ g ≠ some '.' ∧ g ≠ some 'e' ∧ g ≠ some 'E'

variable {gs : List Glyph} {ds : List Char}

theorem digit?_of_isDigit {c : Char} (h : c.isDigit = true) :
    digit? (some c) = some (c.toNat - 48) := by
  obtain ⟨hlow, hhigh⟩ := Char.isDigit_iff_toNat.mp h
  exact if_pos (by simpa [Char.le_def, UInt32.le_iff_toNat_le] using ⟨hlow, hhigh⟩)

theorem leadingDigits_append (hd : ∀ c ∈ ds, c.isDigit = true) (hgs : EndsNumber gs) :
    leadingDigits (ds.map some ++ gs) = ds.map fun c => c.toNat - 48 := by
  induction ds with
  | nil =>
    cases gs with
    | nil => rfl
    | cons g gs => simp [leadingDigits, (hgs g rfl).1]
  | cons d ds ih =>
    have htail := ih fun c hc => hd c (List.mem_cons_of_mem d hc)
    simp [leadingDigits, digit?_of_isDigit (hd d List.mem_cons_self), htail]

theorem readFraction_end (hgs : EndsNumber gs) : readFraction gs = .ok ([], 0) := by
  unfold readFraction
  split
  next => exact absurd rfl (hgs _ rfl).2.1
  next => rfl

theorem readExponent_end (hgs : EndsNumber gs) : readExponent gs = .ok (0, 0) := by
  unfold readExponent
  split
  next c gs' =>
    obtain ⟨-, -, he, hE⟩ := hgs (some c) rfl
    have hc : (c = 'e' || c = 'E') = false := by
      simp only [ne_eq, Option.some.injEq] at he hE
      simp [he, hE]
    simp [hc]
  next => rfl

theorem ofDigitChars_lt (hd : ∀ c ∈ ds, c.isDigit = true) :
    Nat.ofDigitChars 10 ds 0 < 10 ^ ds.length := by
  induction ds with
  | nil => simp
  | cons d ds ih =>
    have htail := ih fun c hc => hd c (List.mem_cons_of_mem d hc)
    obtain ⟨-, hhigh⟩ := Char.isDigit_iff_toNat.mp (hd d List.mem_cons_self)
    have hd' : d.toNat - 48 ≤ 9 := by
      have h57 : d.toNat ≤ 57 := hhigh
      omega
    have hmul := Nat.mul_le_mul_left (10 ^ ds.length) hd'
    have hzero : '0'.toNat = 48 := rfl
    rw [Nat.ofDigitChars_cons, Nat.ofDigitChars_eq_ofDigitChars_zero, List.length_cons, Nat.pow_succ,
      Nat.mul_zero, Nat.zero_add, hzero]
    omega

/-- No number but zero starts with the digit zero. -/
theorem toDigits_zero_head {n : Nat} {more : List Char} (h : Nat.toDigits 10 n = '0' :: more) :
    more = [] := by
  cases more with
  | nil => rfl
  | cons d more =>
    have hd : ∀ c ∈ d :: more, c.isDigit = true := fun c hc =>
      Nat.isDigit_of_mem_toDigits (b := 10) (n := n) (by decide) (by decide)
        (h ▸ List.mem_cons_of_mem _ hc)
    have hvalue : Nat.ofDigitChars 10 (d :: more) 0 = n := by
      have hn := Nat.ofDigitChars_ten_toDigits (n := n)
      rw [h, Nat.ofDigitChars_cons] at hn
      exact hn
    have hlt := ofDigitChars_lt hd
    rw [hvalue] at hlt
    have hlen := (Nat.length_toDigits_le_iff (b := 10) (by decide) (by simp)).mpr hlt
    rw [h, List.length_cons, List.length_cons] at hlen
    omega

theorem readNumeral_toDigits (negative : Bool) (n : Nat) (hgs : EndsNumber gs) :
    readNumeral negative ((Nat.toDigits 10 n).map some ++ gs) =
      .ok (⟨negative, (Nat.toDigits 10 n).map fun c => c.toNat - 48, [], 0, true⟩,
        (Nat.toDigits 10 n).length) := by
  have hd : ∀ c ∈ Nat.toDigits 10 n, c.isDigit = true := fun c hc =>
    Nat.isDigit_of_mem_toDigits (by decide) (by decide) hc
  have hlead := leadingDigits_append hd hgs
  cases hds : Nat.toDigits 10 n with
  | nil => exact absurd hds Nat.toDigits_ne_nil
  | cons d more =>
    have hzero :
        ¬ (decide (d.toNat - 48 = 0) && !(more.map fun c => c.toNat - 48).isEmpty) = true := by
      intro hbad
      simp only [Bool.and_eq_true, decide_eq_true_eq, Bool.not_eq_true'] at hbad
      obtain ⟨hd0, hmore⟩ := hbad
      have hdigit := hd d (by rw [hds]; exact List.mem_cons_self)
      obtain ⟨hlow, -⟩ := Char.isDigit_iff_toNat.mp hdigit
      have hlow' : 48 ≤ d.toNat := hlow
      have hchar : d = '0' := by
        have h48 : d.toNat = 48 := by omega
        rw [← Char.ofNat_toNat d, h48]
      rw [hchar] at hds
      rw [toDigits_zero_head hds] at hmore
      cases hmore
    rw [hds] at hlead
    unfold readNumeral
    rw [hlead]
    simp only [List.map_cons]
    rw [if_neg hzero]
    have hdrop : List.drop ((d.toNat - 48) :: more.map fun c => c.toNat - 48).length
        (some d :: more.map some ++ gs) = gs := by
      rw [List.length_cons, List.length_map, List.drop_append_of_le_length (by simp)]
      simp
    simp only [hdrop, readFraction_end hgs, bind, Except.bind, List.drop_zero, readExponent_end hgs,
      pure, Except.pure]
    simp

theorem le_foldl_digits (n : Nat) (ds : List Nat) : n ≤ ds.foldl (fun n d => n * 10 + d) n := by
  induction ds generalizing n with
  | nil => exact Nat.le_refl n
  | cons d ds ih =>
    have hle := ih (n * 10 + d)
    rw [List.foldl_cons]
    omega

theorem appendDigits_all (n taken : Nat) (ds : List Nat)
    (h : ds.foldl (fun n d => n * 10 + d) n < 18446744073709551616) :
    appendDigits n taken ds = (ds.foldl (fun n d => n * 10 + d) n, taken + ds.length) := by
  induction ds generalizing n taken with
  | nil => rfl
  | cons d ds ih =>
    have hle := le_foldl_digits (n * 10 + d) ds
    rw [List.foldl_cons] at h
    rw [appendDigits, if_pos (by omega), ih _ _ h, List.foldl_cons, List.length_cons]
    congr 1
    omega

theorem numberToken_toDigits {negative : Bool} {n : Nat} {w : Whole}
    (hw : w.val = if negative then -(n : Int) else n) (hn : negative = true → n ≠ 0)
    (hgs : EndsNumber gs) :
    numberToken negative ((Nat.toDigits 10 n).map some ++ gs) =
      (.plain (.ok (.number (.whole w))) (.ok ()), (Nat.toDigits 10 n).length) := by
  have hlower := w.lower
  have hupper := w.upper
  have hvalue :
      ((Nat.toDigits 10 n).map fun c => c.toNat - 48).foldl (fun n d => n * 10 + d) 0 = n := by
    rw [List.foldl_map]
    refine Eq.trans ?_ (Nat.ofDigitChars_ten_toDigits (n := n))
    rw [Nat.ofDigitChars_eq_foldl]
    congr 1
    funext n c
    rw [Nat.mul_comm]
    rfl
  have hbound : n < 18446744073709551616 := by
    split at hw <;> omega
  have happend := appendDigits_all 0 0 ((Nat.toDigits 10 n).map fun c => c.toNat - 48)
    (by rw [hvalue]; exact hbound)
  rw [hvalue, List.length_map, Nat.zero_add] at happend
  have hzero : ¬ (negative && decide (n = 0)) = true := by
    intro hbad
    simp only [Bool.and_eq_true, decide_eq_true_eq] at hbad
    exact hn hbad.1 hbad.2
  have hwhole : Whole.ofInt? (if negative then -(n : Int) else n) = some w := by
    rw [← hw]
    unfold Whole.ofInt?
    rw [dif_pos ⟨hlower, hupper⟩]
  have hnumber : Number.ofNumeral?
      ⟨negative, (Nat.toDigits 10 n).map fun c => c.toNat - 48, [], 0, true⟩ = some (.whole w) := by
    unfold Number.ofNumeral?
    simp only [happend, List.length_map, Nat.sub_self, appendDigits]
    simp only [decide_true, Bool.and_true, if_true, hwhole]
    rw [if_neg hzero]
  unfold numberToken
  rw [readNumeral_toDigits negative n hgs]
  simp only [hnumber]

theorem token_digit {d : Char} (hd : d.isDigit = true) (gs : List Glyph) :
    isSpace (some d) = false ∧
      token (some d) gs =
        ((numberToken false (some d :: gs)).1, (numberToken false (some d :: gs)).2 - 1) := by
  have hne : ∀ c : Char, c.isDigit = false → d ≠ c := by
    rintro c hc rfl
    rw [hd] at hc
    cases hc
  obtain ⟨hlow, hhigh⟩ := Char.isDigit_iff_toNat.mp hd
  have hlow' : 48 ≤ d.toNat := hlow
  have hhigh' : d.toNat ≤ 57 := hhigh
  have hrange : ('0' ≤ d && d ≤ '9') = true := by
    simpa [Char.le_def, UInt32.le_iff_toNat_le] using ⟨hlow, hhigh⟩
  constructor
  · simp [isSpace, hne]
  · unfold token
    have hopen : d.toNat ≠ 0x7B := by omega
    have hclose : d.toNat ≠ 0x7D := by omega
    simp [hne, hrange, hopen, hclose]

/-- A whole number is one token. -/
theorem tokensAfter_whole (w : Whole) (hgs : EndsNumber gs) :
    tokensAfter 0 (w.text.map some ++ gs) =
      .plain (.ok (.number (.whole w))) (.ok ()) :: tokensAfter 0 gs := by
  unfold Whole.text
  split
  next hneg =>
    have htoken := @numberToken_toDigits gs true w.val.natAbs w (by rw [if_pos rfl]; omega)
      (by omega) hgs
    have hrest := tokensAfter_append ((Nat.toDigits 10 w.val.natAbs).map some) gs
    rw [List.length_map] at hrest
    have htok : token (some '-') ((Nat.toDigits 10 w.val.natAbs).map some ++ gs) =
        numberToken true ((Nat.toDigits 10 w.val.natAbs).map some ++ gs) := rfl
    rw [List.map_cons, List.cons_append, tokensAfter, htok, htoken]
    exact congrArg (Token.plain (.ok (.number (.whole w))) (.ok ()) :: ·) hrest
  next hpos =>
    have htoken := @numberToken_toDigits gs false w.val.natAbs w (by rw [if_neg (by decide)]; omega)
      (fun h => absurd h Bool.false_ne_true) hgs
    cases hds : Nat.toDigits 10 w.val.natAbs with
    | nil => exact absurd hds Nat.toDigits_ne_nil
    | cons d more =>
      have hd : d.isDigit = true :=
        Nat.isDigit_of_mem_toDigits (b := 10) (n := w.val.natAbs) (by decide) (by decide)
          (by rw [hds]; exact List.mem_cons_self)
      have hrest := tokensAfter_append (more.map some) gs
      rw [List.length_map] at hrest
      rw [hds] at htoken
      obtain ⟨hspace, htok⟩ := token_digit hd (more.map some ++ gs)
      rw [List.map_cons, List.cons_append] at htoken
      rw [htoken] at htok
      rw [List.map_cons, List.cons_append, tokensAfter, hspace, htok]
      exact congrArg (Token.plain (.ok (.number (.whole w))) (.ok ()) :: ·) hrest

end Numbers

end BearerSession.Json
