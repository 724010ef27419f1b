import BearerSession.Decimal.Shortest
import BearerSession.SortedMap

namespace BearerSession.Json

/-- A whole number that a signed or an unsigned word of 64 bits can hold. -/
structure Whole where
  val : Int
  lower : -9223372036854775808 ≤ val
  upper : val ≤ 18446744073709551615
  deriving DecidableEq

namespace Whole

def ofInt? (i : Int) : Option Whole :=
  if h : -9223372036854775808 ≤ i ∧ i ≤ 18446744073709551615 then some ⟨i, h.1, h.2⟩ else none

def ofUInt32 (n : UInt32) : Whole :=
  ⟨n.toNat, by omega, by have := n.toNat_lt; omega⟩

def ofUInt64 (n : UInt64) : Whole :=
  ⟨n.toNat, by omega, by have := n.toNat_lt; omega⟩

end Whole

/-- A JSON number. -/
inductive Number
  | whole (n : Whole)
  | binary (x : Binary64)
  deriving DecidableEq

/-- A JSON value. An object that was read from outside has its fields in ascending order of their
names. -/
inductive Value
  | null
  | bool (b : Bool)
  | number (n : Number)
  | string (s : String)
  | array (items : List Value)
  | object (fields : List (String × Value))
  deriving Inhabited

namespace Value

def whole (n : Whole) : Value := .number (.whole n)

end Value

end BearerSession.Json
