import BearerSession.Text.Characters
import BearerSession.Time.Instant

namespace BearerSession.Instant

/-- A number in at least so many digits. -/
def padded (width n : Nat) : List Char :=
  let ds := Nat.toDigits 10 n
  List.replicate (width - ds.length) '0' ++ ds

/-- A year in four digits, with its sign where these do not suffice. -/
def yearText (year : Int) : List Char :=
  if 0 ≤ year && year ≤ 9999 then padded 4 year.toNat
  else (if year < 0 then '-' else '+') :: padded 4 year.natAbs

/-- The part of a second behind its point, in three, six or nine digits, or nothing. -/
def fractionText (nano : Nat) : List Char :=
  if nano = 0 then []
  else if nano % 1000000 = 0 then '.' :: padded 3 (nano / 1000000)
  else if nano % 1000 = 0 then '.' :: padded 6 (nano / 1000)
  else '.' :: padded 9 nano

/-- The written form. A leap second is the sixtieth. -/
def text (t : Instant) : String :=
  let date := Date.ofDays (t.second / 86400)
  let rest := (t.second % 86400).toNat
  let (extra, nano) := if 1000000000 ≤ t.nano then (1, t.nano - 1000000000) else (0, t.nano)
  String.ofList (yearText date.year ++ ['-'] ++ padded 2 date.month ++ ['-'] ++ padded 2 date.day
    ++ ['T'] ++ padded 2 (rest / 3600) ++ [':'] ++ padded 2 (rest / 60 % 60)
    ++ [':'] ++ padded 2 (rest % 60 + extra) ++ fractionText nano ++ ['Z'])

def digit? (c : Char) : Option Nat := if '0' ≤ c && c ≤ '9' then some (c.toNat - 48) else none

/-- The decimal digits at the front of a text, at most so many. -/
def digitsUpTo : Nat → List Char → List Nat
  | 0, _ => []
  | _, [] => []
  | n + 1, c :: cs =>
    match digit? c with
    | some d => d :: digitsUpTo n cs
    | none => []

def digitsValue (ds : List Nat) : Nat := ds.foldl (fun n d => n * 10 + d) 0

/-- A number of at most so many digits, behind white space. -/
def readNumber? (width : Nat) (cs : List Char) : Option (Nat × List Char) :=
  let cs := cs.dropWhile isBlank
  let ds := digitsUpTo width cs
  if ds.isEmpty then none else some (digitsValue ds, cs.drop ds.length)

/-- A year: four digits at most, or a sign and any number of them. -/
def readYear? (cs : List Char) : Option (Int × List Char) :=
  match cs.dropWhile isBlank with
  | '-' :: cs => do
    let ds := digitsUpTo cs.length cs
    if ds.isEmpty then none else some (-(digitsValue ds : Int), cs.drop ds.length)
  | '+' :: cs => do
    let ds := digitsUpTo cs.length cs
    if ds.isEmpty then none else some (digitsValue ds, cs.drop ds.length)
  | cs => (readNumber? 4 cs).map fun (n, cs) => ((n : Int), cs)

/-- A sign of punctuation behind white space. -/
def readMark? (mark : Char) (cs : List Char) : Option (List Char) :=
  match cs.dropWhile isBlank with
  | [] => none
  | c :: cs => if c = mark then some cs else none

/-- The nanoseconds of a fraction, of whose digits nine count. -/
def readFraction? (cs : List Char) : Option (Nat × List Char) :=
  match cs with
  | '.' :: cs =>
    let ds := digitsUpTo 9 cs
    if ds.isEmpty then none
    else some (digitsValue ds * Nat.pow 10 (9 - ds.length),
      (cs.drop ds.length).dropWhile fun c => (digit? c).isSome)
  | cs => some (0, cs)

/-- The seconds of an offset of hours and minutes behind its sign. -/
def readOffsetSize? (cs : List Char) : Option (Nat × List Char) :=
  match cs with
  | h :: h' :: cs => do
    let h ← digit? h
    let h' ← digit? h'
    match cs.dropWhile fun c => c = ':' || isBlank c with
    | m :: m' :: cs => do
      let m ← digit? m
      let m' ← digit? m'
      let size := (h * 10 + h') * 3600 + (m * 10 + m') * 60
      if m < 6 && size < 86400 then some (size, cs) else none
    | _ => none
  | _ => none

/-- An offset from universal time in seconds, behind white space. -/
def readOffset? (cs : List Char) : Option (Int × List Char) :=
  match cs.dropWhile isBlank with
  | [] => none
  | c :: cs =>
    if c = 'Z' || c = 'z' then some (0, cs)
    else if (c :: cs.take 2).map Char.toLower = ['u', 't', 'c'] then some (0, cs.drop 2)
    else if c = '+' then (readOffsetSize? cs).map fun (n, cs) => ((n : Int), cs)
    else if c = '-' || c.toNat = 0x2212 then
      (readOffsetSize? cs).map fun (n, cs) => (-(n : Int), cs)
    else none

/-- The point in time of a day, a time of day and an offset. The sixtieth second is a leap second. -/
def ofParts? (date : Date) (hour minute second nano : Nat) (offset : Int) : Option Instant :=
  let (second, nano) := if second = 60 then (59, nano + 1000000000) else (second, nano)
  let wall : Int := date.toDays * 86400 + hour * 3600 + minute * 60 + second
  let s := wall - offset
  if h : date.isValid ∧ hour ≤ 23 ∧ minute ≤ 59 ∧ second ≤ 59 ∧ nano < 2000000000
      ∧ (leastSecond ≤ wall ∧ wall ≤ greatestSecond) ∧ leastSecond ≤ s ∧ s ≤ greatestSecond then
    some ⟨s, nano, h.2.2.2.2.2.2.1, h.2.2.2.2.2.2.2, h.2.2.2.2.1⟩
  else none

/-- Reads a written point in time. White space may stand before every part and at the end. -/
def read? (cs : List Char) : Option Instant := do
  let (year, cs) ← readYear? cs
  let cs ← readMark? '-' cs
  let (month, cs) ← readNumber? 2 cs
  let cs ← readMark? '-' cs
  let (day, cs) ← readNumber? 2 cs
  let cs ← match cs with
    | c :: cs => if c = 'T' || c = 't' || c = ' ' then some cs else none
    | [] => none
  let (hour, cs) ← readNumber? 2 cs
  let cs ← readMark? ':' cs
  let (minute, cs) ← readNumber? 2 cs
  let cs ← readMark? ':' cs
  let (second, cs) ← readNumber? 2 cs
  let (nano, cs) ← readFraction? cs
  let (offset, cs) ← readOffset? cs
  if cs.all isBlank then ofParts? ⟨year, month, day⟩ hour minute second nano offset else none

end BearerSession.Instant
