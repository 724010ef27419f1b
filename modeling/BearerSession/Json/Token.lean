import BearerSession.Json.Value
import BearerSession.Text.Utf8

namespace BearerSession.Json

/-- Why a text is not JSON: it breaks the grammar or it ends too early. -/
inductive Fault
  | malformed
  | truncated
  deriving DecidableEq, Repr

/-- A value without parts. -/
inductive Leaf
  | null
  | bool (b : Bool)
  | number (n : Number)
  | string (s : String)
  deriving DecidableEq

/-- A token, with what comes of keeping it and of skipping it where it can fail. To skip asks for
less: a string need not be made of characters, and a number need not be in range. -/
inductive Token
  | openArray
  | closeArray
  | openObject
  | closeObject
  | comma
  | colon
  | string (kept : Except Fault String) (skipped : Except Fault Unit)
  | plain (kept : Except Fault Leaf) (skipped : Except Fault Unit)
  | stray

/-- Whether a unit is white space between tokens. -/
def isSpace (g : Glyph) : Bool :=
  g = some ' ' || g = some '\t' || g = some '\n' || g = some '\r'

/-- The value of a decimal digit. -/
def digit? : Glyph → Option Nat
  | some c => if '0' ≤ c && c ≤ '9' then some (c.toNat - 48) else none
  | none => none

/-- The value of a hexadecimal digit of either case. -/
def hexValue? : Glyph → Option Nat
  | some c =>
    if '0' ≤ c && c ≤ '9' then some (c.toNat - 48)
    else if 'a' ≤ c && c ≤ 'f' then some (c.toNat - 87)
    else if 'A' ≤ c && c ≤ 'F' then some (c.toNat - 55)
    else none
  | none => none

/-- The number of four hexadecimal digits. -/
def quad? (a b c d : Glyph) : Option Nat := do
  let a ← hexValue? a
  let b ← hexValue? b
  let c ← hexValue? c
  let d ← hexValue? d
  return ((a * 16 + b) * 16 + c) * 16 + d

/-- The fault of an escape with fewer than four units left. Four octets or more hold one that is
no digit. -/
def shortQuad (gs : List Glyph) : Fault :=
  if gs.foldl (fun n g => n + Glyph.octets g) 0 < 4 then .truncated else .malformed

/-- What a one-letter escape stands for. -/
def escaped? : Glyph → Option Char
  | some c =>
    if c = '"' then some '"'
    else if c = '\\' then some '\\'
    else if c = '/' then some '/'
    else if c = 'b' then some (Char.ofNat 0x8)
    else if c = 'f' then some (Char.ofNat 0xC)
    else if c = 'n' then some '\n'
    else if c = 'r' then some '\r'
    else if c = 't' then some '\t'
    else none
  | none => none

/-- Whether a unit is a control character, which no string may hold. -/
def isControl : Glyph → Bool
  | some c => c.toNat < 0x20
  | none => false

/-- The number of units up to the end of a string that is skipped. -/
def skipString (count : Nat) : List Glyph → Except Fault Nat
  | [] => .error .truncated
  | g :: gs =>
    if g = some '"' then .ok (count + 1)
    else if g = some '\\' then
      match gs with
      | [] => .error .truncated
      | e :: gs =>
        if e = some 'u' then
          match gs with
          | a :: b :: c :: d :: gs =>
            match quad? a b c d with
            | some _ => skipString (count + 6) gs
            | none => .error .malformed
          | short => .error (shortQuad short)
        else
          match escaped? e with
          | some _ => skipString (count + 2) gs
          | none => .error .malformed
    else if isControl g then .error .malformed
    else skipString (count + 1) gs

/-- Whether a number is the second half of a character in two escapes. -/
def isTrailing (n : Nat) : Bool := 0xDC00 ≤ n && n ≤ 0xDFFF

/-- Whether a number is the first half of a character in two escapes. -/
def isLeading (n : Nat) : Bool := 0xD800 ≤ n && n ≤ 0xDBFF

/-- The characters of a string that is kept, in front of which `read` were read. A stray octet
spoils the string at its end, a half of a character at once. -/
def keepString (sound : Bool) (read : List Char) : List Glyph → Except Fault (List Char)
  | [] => .error .truncated
  | g :: gs =>
    if g = some '"' then if sound then .ok read.reverse else .error .malformed
    else if g = some '\\' then
      match gs with
      | [] => .error .truncated
      | e :: gs =>
        if e = some 'u' then
          match gs with
          | a :: b :: c :: d :: gs =>
            match quad? a b c d with
            | none => .error .malformed
            | some n =>
              if isTrailing n then .error .malformed
              else if isLeading n then
                match gs with
                | [] => .error .truncated
                | s :: gs =>
                  if s ≠ some '\\' then .error .malformed
                  else
                    match gs with
                    | [] => .error .truncated
                    | u :: gs =>
                      if u ≠ some 'u' then .error .malformed
                      else
                        match gs with
                        | a :: b :: c :: d :: gs =>
                          match quad? a b c d with
                          | none => .error .malformed
                          | some m =>
                            if isTrailing m then
                              let code := (n - 0xD800) * 0x400 + (m - 0xDC00) + 0x10000
                              keepString sound (Char.ofNat code :: read) gs
                            else .error .malformed
                        | short => .error (shortQuad short)
              else keepString sound (Char.ofNat n :: read) gs
          | short => .error (shortQuad short)
        else
          match escaped? e with
          | some c => keepString sound (c :: read) gs
          | none => .error .malformed
    else if isControl g then .error .malformed
    else
      match g with
      | some c => keepString sound (c :: read) gs
      | none => keepString false read gs

/-- A number as written. -/
structure Numeral where
  negative : Bool
  whole : List Nat
  fraction : List Nat
  exponent : Int
  /-- Written without point and exponent. -/
  isWhole : Bool

/-- The decimal digits at the front of a text. -/
def leadingDigits : List Glyph → List Nat
  | [] => []
  | g :: gs =>
    match digit? g with
    | some d => d :: leadingDigits gs
    | none => []

/-- The digits after a point, and how many units they take with it. -/
def readFraction (gs : List Glyph) : Except Fault (List Nat × Nat) :=
  match gs with
  | some '.' :: gs =>
    match leadingDigits gs with
    | [] => .error (if gs.isEmpty then .truncated else .malformed)
    | ds => .ok (ds, ds.length + 1)
  | _ => .ok ([], 0)

def digitsValue (ds : List Nat) : Nat := ds.foldl (fun n d => n * 10 + d) 0

/-- The digits of an exponent after its sign, and how many units they take. -/
def readPower (negative : Bool) (taken : Nat) (gs : List Glyph) : Except Fault (Int × Nat) :=
  match leadingDigits gs with
  | [] => .error (if gs.isEmpty then .truncated else .malformed)
  | ds =>
    let power : Int := digitsValue ds
    .ok (if negative then -power else power, ds.length + taken)

/-- An exponent, and how many units it takes; none takes none. -/
def readExponent (gs : List Glyph) : Except Fault (Int × Nat) :=
  match gs with
  | some c :: gs =>
    if c = 'e' || c = 'E' then
      match gs with
      | some '+' :: gs => readPower false 2 gs
      | some '-' :: gs => readPower true 2 gs
      | gs => readPower false 1 gs
    else .ok (0, 0)
  | _ => .ok (0, 0)

/-- A number after its sign, and how many units it takes. A leading zero stands alone. -/
def readNumeral (negative : Bool) (gs : List Glyph) : Except Fault (Numeral × Nat) :=
  match leadingDigits gs with
  | [] => .error (if gs.isEmpty then .truncated else .malformed)
  | first :: more =>
    if first = 0 && !more.isEmpty then .error .malformed
    else do
      let whole := first :: more
      let gs := gs.drop whole.length
      let (fraction, afterPoint) ← readFraction gs
      let gs := gs.drop afterPoint
      let (exponent, afterPower) ← readExponent gs
      return (⟨negative, whole, fraction, exponent, afterPoint = 0 && afterPower = 0⟩,
        whole.length + afterPoint + afterPower)

/-- Appends digits to a number while it fits into 64 bits, and tells how many were appended. -/
def appendDigits (n : Nat) (taken : Nat) : List Nat → Nat × Nat
  | [] => (n, taken)
  | d :: ds => if n * 10 + d < 18446744073709551616 then appendDigits (n * 10 + d) (taken + 1) ds else (n, taken)

/-- The number that a numeral stands for; `none` beyond the range. A numeral without point and
exponent is whole if a word can hold it, negative zero excepted; any other is made of the leading
digits that fit into 64 bits and a power of ten. -/
def Number.ofNumeral? (x : Numeral) : Option Number :=
  let (n, taken) := appendDigits 0 0 x.whole
  let dropped := x.whole.length - taken
  let (n, places) := appendDigits n 0 x.fraction
  let binary := (Binary64.ofDecimal? x.negative n (x.exponent + dropped - places)).map Number.binary
  if x.isWhole && dropped = 0 then
    if x.negative && n = 0 then binary
    else
      match Whole.ofInt? (if x.negative then -(n : Int) else n) with
      | some w => some (.whole w)
      | none => binary
  else binary

/-- The rest of a word after its first letter. -/
def readWord (letters : List Char) (gs : List Glyph) : Except Fault Unit :=
  match letters, gs with
  | [], _ => .ok ()
  | _ :: _, [] => .error .truncated
  | c :: letters, g :: gs => if g = some c then readWord letters gs else .error .malformed

/-- The token of a word, and how many further units it takes. -/
def wordToken (leaf : Leaf) (letters : List Char) (gs : List Glyph) : Token × Nat :=
  match readWord letters gs with
  | .ok () => (.plain (.ok leaf) (.ok ()), letters.length)
  | .error fault => (.plain (.error fault) (.error fault), 0)

/-- The token of a number, and how many units it takes after its sign. A number that ends too
early counts as malformed where it is skipped. -/
def numberToken (negative : Bool) (gs : List Glyph) : Token × Nat :=
  match readNumeral negative gs with
  | .ok (numeral, taken) =>
    match Number.ofNumeral? numeral with
    | some n => (.plain (.ok (.number n)) (.ok ()), taken)
    | none => (.plain (.error .malformed) (.ok ()), taken)
  | .error fault => (.plain (.error fault) (.error .malformed), 0)

/-- The token of a string after its opening quote, and how many units it takes. -/
def stringToken (gs : List Glyph) : Token × Nat :=
  let kept := (keepString true [] gs).map String.ofList
  match skipString 0 gs with
  | .ok taken => (.string kept (.ok ()), taken)
  | .error fault => (.string kept (.error fault), 0)

/-- The token that starts with a unit, and how many further units it takes. -/
def token (g : Glyph) (gs : List Glyph) : Token × Nat :=
  match g with
  | none => (.stray, 0)
  | some c =>
    if c = '[' then (.openArray, 0)
    else if c = ']' then (.closeArray, 0)
    else if c.toNat = 0x7B then (.openObject, 0)
    else if c.toNat = 0x7D then (.closeObject, 0)
    else if c = ',' then (.comma, 0)
    else if c = ':' then (.colon, 0)
    else if c = '"' then stringToken gs
    else if c = '-' then numberToken true gs
    else if '0' ≤ c && c ≤ '9' then
      let (t, taken) := numberToken false (g :: gs)
      (t, taken - 1)
    else if c = 'n' then wordToken .null ['u', 'l', 'l'] gs
    else if c = 't' then wordToken (.bool true) ['r', 'u', 'e'] gs
    else if c = 'f' then wordToken (.bool false) ['a', 'l', 's', 'e'] gs
    else (.stray, 0)

/-- Whether reading cannot go on after a token. -/
def Token.isLast : Token → Bool
  | .string _ (.error _) => true
  | .plain _ (.error _) => true
  | .stray => true
  | _ => false

/-- The tokens of a text of which the first `taken` units were read before. -/
def tokensAfter : Nat → List Glyph → List Token
  | _, [] => []
  | taken + 1, _ :: gs => tokensAfter taken gs
  | 0, g :: gs =>
    if isSpace g then tokensAfter 0 gs
    else
      let (t, taken) := token g gs
      if t.isLast then [t] else t :: tokensAfter taken gs

/-- The tokens of a text, up to the first that ends reading. -/
def tokens (gs : List Glyph) : List Token := tokensAfter 0 gs

end BearerSession.Json
