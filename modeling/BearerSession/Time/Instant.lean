import BearerSession.Time.Calendar

namespace BearerSession

/-- A point in time: whole seconds since 1970 and the nanoseconds into the second. A leap second
has two billion of these. -/
structure Instant where
  second : Int
  nano : Nat
  lower : -8334601228800 ≤ second
  upper : second ≤ 8210266876799
  nano_lt : nano < 2000000000
  deriving DecidableEq

namespace Instant

/-- The first second. -/
def leastSecond : Int := -8334601228800

/-- The last second. -/
def greatestSecond : Int := 8210266876799

def least : Instant := ⟨leastSecond, 0, by decide, by decide, by decide⟩

def greatest : Instant := ⟨greatestSecond, 999999999, by decide, by decide, by decide⟩

/-- The nanoseconds since 1970. -/
def nanos (t : Instant) : Int := t.second * 1000000000 + t.nano

/-- The point in time so many nanoseconds after 1970 began. -/
def ofNanos? (n : Int) : Option Instant :=
  if h : -8334601228800 ≤ n / 1000000000 ∧ n / 1000000000 ≤ 8210266876799 then
    some ⟨n / 1000000000, (n % 1000000000).toNat, h.1, h.2, by omega⟩
  else none

/-- Whether one point in time comes before another. -/
def isBefore (a b : Instant) : Bool := a.second < b.second || (a.second = b.second && a.nano < b.nano)

instance : LT Instant := ⟨fun a b => a.isBefore b = true⟩

instance (a b : Instant) : Decidable (a < b) := inferInstanceAs (Decidable (_ = true))

end Instant

/-- A span of time in nanoseconds, of either sign, as long as a count of milliseconds in a signed
word can be. -/
structure Span where
  nanos : Int
  lower : -9223372036854775807000000 ≤ nanos
  upper : nanos ≤ 9223372036854775807000000
  deriving DecidableEq

namespace Span

/-- Whole seconds, rounded toward zero. -/
def seconds (s : Span) : Int := s.nanos.tdiv 1000000000

end Span

/-- The point in time a span after another, or the end of the range that it passes. -/
def Instant.plus (t : Instant) (s : Span) : Instant :=
  match ofNanos? (t.nanos + s.nanos) with
  | some t => t
  | none => if s.nanos < 0 then least else greatest

end BearerSession
