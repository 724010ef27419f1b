namespace BearerSession

/-- The finite number `significand * 2 ^ exponent`, with a sign that zero has too. -/
structure Binary64 where
  negative : Bool
  significand : Nat
  exponent : Int
  deriving DecidableEq, Repr

namespace Binary64

/-- The exponent of the smallest steps. -/
def leastExponent : Int := -1074

/-- The least significand of 53 bits. -/
def leastNormal : Nat := 4503599627370496

/-- The exponent of the largest steps. -/
def greatestExponent : Int := 971

/-- The exact size of a number, as a fraction. -/
def fraction (x : Binary64) : Nat × Nat :=
  if 0 ≤ x.exponent then (x.significand * Nat.pow 2 x.exponent.toNat, 1)
  else (x.significand, Nat.pow 2 (-x.exponent).toNat)

/-- A fraction divided by `2 ^ e`. -/
def scaled (num den : Nat) (e : Int) : Nat × Nat :=
  if 0 ≤ e then (num, den * Nat.pow 2 e.toNat) else (num * Nat.pow 2 (-e).toNat, den)

/-- The whole number nearest to a fraction, the even one of two. -/
def roundHalfEven (num den : Nat) : Nat :=
  let q := num / den
  let r := num % den
  if 2 * r < den then q
  else if den < 2 * r then q + 1
  else if q % 2 = 0 then q else q + 1

/-- The exponent with which a fraction is written in 53 bits. -/
def stepExponent (num den : Nat) : Int :=
  let guess : Int := (num.log2 : Int) - den.log2 - 53
  let (n, d) := scaled num den guess
  let e := if n < 2 * leastNormal * d then guess else guess + 1
  max e leastExponent

/-- The number nearest to a fraction, if the fraction is in range. -/
def ofFraction? (negative : Bool) (num den : Nat) : Option Binary64 :=
  if num = 0 then some ⟨negative, 0, leastExponent⟩
  else
    let e := stepExponent num den
    let (n, d) := scaled num den e
    let s := roundHalfEven n d
    let (s, e) := if s = 2 * leastNormal then (leastNormal, e + 1) else (s, e)
    if greatestExponent < e then none else some ⟨negative, s, e⟩

/-- The product with a power of ten, itself rounded first. -/
def timesPowerOfTen? (x : Binary64) (power : Nat) : Option Binary64 := do
  let p ← ofFraction? false (Nat.pow 10 power) 1
  let (n, d) := x.fraction
  let (pn, pd) := p.fraction
  ofFraction? x.negative (n * pn) (d * pd)

/-- The quotient by a power of ten, itself rounded first. -/
def overPowerOfTen? (x : Binary64) (power : Nat) : Option Binary64 := do
  let p ← ofFraction? false (Nat.pow 10 power) 1
  let (n, d) := x.fraction
  let (pn, pd) := p.fraction
  ofFraction? x.negative (n * pd) (d * pn)

/-- The greatest power of ten that a number is scaled by at once. -/
def greatestPower : Nat := 308

/-- The quotient by a power of ten of any size, in steps of the greatest power. -/
def overPower? (steps : Nat) (x : Binary64) (power : Nat) : Option Binary64 :=
  match steps with
  | 0 => some x
  | steps + 1 =>
    if power ≤ greatestPower then x.overPowerOfTen? power
    else if x.significand = 0 then some x
    else do overPower? steps (← x.overPowerOfTen? greatestPower) (power - greatestPower)

/-- The number for `digits * 10 ^ power`, by one rounding of the digits and one for each scaling;
`none` beyond the range. -/
def ofDecimal? (negative : Bool) (digits : Nat) (power : Int) : Option Binary64 := do
  let x ← ofFraction? negative digits 1
  if 0 ≤ power then
    if power.toNat ≤ greatestPower then x.timesPowerOfTen? power.toNat
    else if x.significand = 0 then some x
    else none
  else overPower? ((-power).toNat / greatestPower + 1) x (-power).toNat

end Binary64

end BearerSession
