import BearerSession.Decimal.Binary64

namespace BearerSession.Binary64

/-- Decimal digits times a power of ten. -/
structure Decimal where
  digits : Nat
  power : Int
  deriving DecidableEq, Repr

/-- The power of ten of the leading decimal digit of a fraction that is not zero. -/
def leadingPower (num den : Nat) : Int :=
  if den ≤ num then ((Nat.toDigits 10 (num / den)).length : Int) - 1
  else
    let k := (Nat.toDigits 10 (den / num)).length
    if den ≤ num * Nat.pow 10 (k - 1) then -((k - 1 : Nat) : Int) else -(k : Int)

/-- A fraction divided by a power of ten. -/
def scaledByTen (num den : Nat) (power : Int) : Nat × Nat :=
  if 0 ≤ power then (num, den * Nat.pow 10 power.toNat)
  else (num * Nat.pow 10 (-power).toNat, den)

/-- The halves of the neighbouring steps, in quarters of this number's step: how far below and
above it a decimal may lie. Below a power of two the step is half as wide. -/
def reach (x : Binary64) : Nat × Nat :=
  if x.significand = leastNormal && leastExponent < x.exponent then (1, 2) else (2, 2)

/-- Whether `n / d` units of `10 ^ power` read back as a number: they lie within its reach, whose
ends count for an even significand. -/
def readsBack (x : Binary64) (candidate : Nat) (power : Int) : Bool :=
  let (below, above) := x.reach
  let (un, ud) := if 0 ≤ x.exponent then (Nat.pow 2 x.exponent.toNat, 1)
    else (1, Nat.pow 2 (-x.exponent).toNat)
  let (cn, cd) := if 0 ≤ power then (candidate * Nat.pow 10 power.toNat, 1)
    else (candidate, Nat.pow 10 (-power).toNat)
  let value := 4 * cn * ud
  let low := (4 * x.significand - below) * un * cd
  let high := (4 * x.significand + above) * un * cd
  if x.significand % 2 = 0 then low ≤ value && value ≤ high else low < value && value < high

/-- The nearer of a number's two neighbours among the multiples of a power of ten that reads
back, if one does. -/
def onGrid? (x : Binary64) (power : Int) : Option Decimal :=
  let (num, den) := x.fraction
  let (n, d) := scaledByTen num den power
  let q := n / d
  let lower := q ≠ 0 && x.readsBack q power
  let upper := x.readsBack (q + 1) power
  if lower && upper then
    if 2 * (n % d) < d || (2 * (n % d) = d && q % 2 = 0) then some ⟨q, power⟩ else some ⟨q + 1, power⟩
  else if lower then some ⟨q, power⟩
  else if upper then some ⟨q + 1, power⟩
  else none

/-- The decimal with the fewest digits that reads back as a number other than zero, and of those
the nearest. Seventeen digits always suffice. -/
def shortest (x : Binary64) : Decimal :=
  let (num, den) := x.fraction
  let top := leadingPower num den
  ((List.range 17).findSome? fun (n : Nat) => x.onGrid? (top - n)).getD ⟨x.significand, 0⟩

/-- Moves the zeros at the end of the digits into the power; fuel bounds their number. -/
def Decimal.trimmed : Nat → Decimal → Decimal
  | 0, x => x
  | fuel + 1, x =>
    if x.digits ≠ 0 && x.digits % 10 = 0 then trimmed fuel ⟨x.digits / 10, x.power + 1⟩ else x

/-- Digits with their point: positional from `1e-5` up to below `1e16`, and with a signed exponent
outside of that. A whole number shows one zero after its point. -/
def Decimal.text (x : Decimal) : List Char :=
  let digits := Nat.toDigits 10 x.digits
  let count : Int := digits.length
  let point := count + x.power
  if 0 ≤ x.power && point ≤ 16 then digits ++ List.replicate x.power.toNat '0' ++ ['.', '0']
  else if 0 < point && point ≤ 16 then
    digits.take point.toNat ++ ['.'] ++ digits.drop point.toNat
  else if -5 < point && point ≤ 0 then
    ['0', '.'] ++ List.replicate (-point).toNat '0' ++ digits
  else
    let exponent := point - 1
    let tail := match digits.drop 1 with
      | [] => []
      | ds => '.' :: ds
    let sign := if exponent < 0 then '-' else '+'
    digits.take 1 ++ tail ++ ['e', sign] ++ Nat.toDigits 10 exponent.natAbs

/-- The written form of a number. -/
def text (x : Binary64) : List Char :=
  let body := if x.significand = 0 then ['0', '.', '0'] else (x.shortest.trimmed 20).text
  if x.negative then '-' :: body else body

end BearerSession.Binary64
