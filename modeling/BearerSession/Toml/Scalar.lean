import BearerSession.Decimal.Binary64
import BearerSession.Toml.Text

namespace BearerSession.Toml

/-- A value. Of a fraction, a point in time, an array or an inline table only its presence counts. -/
inductive Value
  | text (s : String)
  | whole (n : Int)
  | truth (b : Bool)
  | other
  deriving DecidableEq

namespace Scalar

def isDecimal (c : Char) : Bool := '0' ≤ c && c ≤ '9'

/-- Digits of a radix without the underscores between them. -/
def digits? (radix : Nat) : List Char → Option (List Nat)
  | [] => none
  | c :: cs => do
    let d ← (Percent.digit? c).filter (· < radix)
    match cs with
    | [] => return [d]
    | '_' :: cs => return d :: (← digits? radix cs)
    | cs => return d :: (← digits? radix cs)

def valueOf (radix : Nat) (ds : List Nat) : Nat := ds.foldl (fun n d => n * radix + d) 0

/-- A word behind its sign, and whether the sign is a minus. -/
def unsigned : List Char → Bool × List Char
  | '-' :: cs => (true, cs)
  | '+' :: cs => (false, cs)
  | cs => (false, cs)

/-- Digits in decimal that do not start with a needless zero. -/
def decimal? (cs : List Char) : Option (List Nat) :=
  (digits? 10 cs).filter fun ds => ds.head? ≠ some 0 || ds.length = 1

/-- A whole number that a signed word of 64 bits holds. -/
def inRange? (n : Int) : Option Value :=
  if -9223372036854775808 ≤ n ∧ n ≤ 9223372036854775807 then some (.whole n) else none

/-- A whole number; in radix sixteen, eight or two it has no sign. -/
def whole? (cs : List Char) : Option Value :=
  match cs with
  | '0' :: 'x' :: cs => do inRange? (valueOf 16 (← digits? 16 cs))
  | '0' :: 'o' :: cs => do inRange? (valueOf 8 (← digits? 8 cs))
  | '0' :: 'b' :: cs => do inRange? (valueOf 2 (← digits? 2 cs))
  | cs =>
    let (minus, cs) := unsigned cs
    do
      let n := valueOf 10 (← decimal? cs)
      inRange? (if minus then -(n : Int) else n)

/-- Whether a number has a finite size: digits, and the power of ten of the last of them. -/
def isFinite (ds : List Nat) (power : Int) : Bool :=
  let ds := ds.dropWhile (· = 0)
  if ds.isEmpty then true
  else
    let top : Int := ds.length + power
    if 310 < top then false
    else if top < -400 then true
    else
      let n := valueOf 10 ds
      let fraction := if 0 ≤ power then (n * Nat.pow 10 power.toNat, 1)
        else (n, Nat.pow 10 (-power).toNat)
      (Binary64.ofFraction? false fraction.1 fraction.2).isSome

/-- The exponent of a fraction. -/
def exponent? (cs : List Char) : Option Int := do
  let (minus, cs) := unsigned cs
  let n := valueOf 10 (← digits? 10 cs)
  return if minus then -(n : Int) else n

/-- A fraction, which has digits behind a point, an exponent, or both. One too large must be
negative. -/
def fraction? (cs : List Char) : Option Value := do
  let (minus, cs) := unsigned cs
  if cs = ['i', 'n', 'f'] || cs = ['n', 'a', 'n'] then some .other
  else
    let front := cs.takeWhile fun c => isDecimal c || c = '_'
    let ds ← decimal? front
    let (behind, rest) ← match cs.drop front.length with
      | '.' :: cs => do
        let part := cs.takeWhile fun c => isDecimal c || c = '_'
        some (← digits? 10 part, cs.drop part.length)
      | cs => some ([], cs)
    let power ← match rest with
      | [] => if behind.isEmpty then none else some 0
      | c :: cs => if c = 'e' || c = 'E' then exponent? cs else none
    if minus || isFinite (ds ++ behind) (power - behind.length) then some .other else none

/-- A number of exactly so many digits within bounds. -/
def fixed? (width low high : Nat) (cs : List Char) : Option (Nat × List Char) := do
  let ds ← (cs.take width).mapM fun c => (Percent.digit? c).filter (· < 10)
  let n := valueOf 10 ds
  if ds.length = width && low ≤ n && n ≤ high then some (n, cs.drop width) else none

/-- The character that must stand at the front of a text. -/
def mark? (c : Char) (cs : List Char) : Option (List Char) :=
  if cs.head? = some c then some (cs.drop 1) else none

/-- The days of a month. -/
def daysOf (year month : Nat) : Nat :=
  if month = 2 then
    if year % 4 = 0 && (year % 100 ≠ 0 || year % 400 = 0) then 29 else 28
  else if month = 4 || month = 6 || month = 9 || month = 11 then 30
  else 31

/-- What follows a date. -/
def afterDate? (cs : List Char) : Option (List Char) := do
  let (year, cs) ← fixed? 4 0 9999 cs
  let cs ← mark? '-' cs
  let (month, cs) ← fixed? 2 1 12 cs
  let cs ← mark? '-' cs
  let (_, cs) ← fixed? 2 1 (daysOf year month) cs
  return cs

/-- What follows a time of day. -/
def afterTime? (cs : List Char) : Option (List Char) := do
  let (_, cs) ← fixed? 2 0 23 cs
  let cs ← mark? ':' cs
  let (_, cs) ← fixed? 2 0 59 cs
  let cs ← mark? ':' cs
  let (_, cs) ← fixed? 2 0 60 cs
  match cs with
  | '.' :: cs =>
    let part := cs.takeWhile isDecimal
    if part.isEmpty then none else some (cs.drop part.length)
  | cs => some cs

/-- What follows an offset, which may be absent. -/
def afterOffset? (cs : List Char) : Option (List Char) :=
  match cs with
  | [] => some []
  | c :: cs =>
    if c = 'Z' || c = 'z' then some cs
    else if c = '+' || c = '-' then do
      let (_, cs) ← fixed? 2 0 23 cs
      let cs ← mark? ':' cs
      let (_, cs) ← fixed? 2 0 59 cs
      return cs
    else none

/-- Whether a word is a time of day, with an offset behind it or not. -/
def isClock (offset : Bool) (cs : List Char) : Bool :=
  match afterTime? cs with
  | some rest => if offset then afterOffset? rest = some [] else rest = []
  | none => false

/-- A date with a time of day or without, or a time of day. -/
def instant? (cs : List Char) : Option Value :=
  match afterDate? cs with
  | some [] => some .other
  | some (c :: rest) => if (c = 'T' || c = 't') && isClock true rest then some .other else none
  | none => if isClock false cs then some .other else none

/-- The value of a word. -/
def ofWord? (cs : List Char) : Option Value :=
  if cs = ['t', 'r', 'u', 'e'] then some (.truth true)
  else if cs = ['f', 'a', 'l', 's', 'e'] then some (.truth false)
  else (instant? cs).or ((fraction? cs).or (whole? cs))

def isWordChar (c : Char) : Bool :=
  c.isAlphanum || c = '+' || c = '-' || c = '_' || c = '.' || c = ':'

/-- Reads a word. The time of day of a date may stand behind one space. -/
def read (cs : List Char) : Option (Value × List Char) := do
  let word := cs.takeWhile isWordChar
  let rest := cs.drop word.length
  let v ← ofWord? word
  match rest with
  | ' ' :: more =>
    let clock := more.takeWhile isWordChar
    if afterDate? word = some [] && isClock true clock then return (v, more.drop clock.length)
    else return (v, rest)
  | _ => return (v, rest)

end Scalar

end BearerSession.Toml
