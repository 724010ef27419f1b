import BearerSession.Text.Utf8

namespace BearerSession.Percent

def octets (cs : List Char) : List UInt8 := cs.flatMap String.utf8EncodeChar

def upperDigit (n : Nat) : Char := ((Nat.toDigits 16 n).headD '0').toUpper

def encodeOctet (b : UInt8) : List Char :=
  ['%', upperDigit (b.toNat / 16), upperDigit (b.toNat % 16)]

/-- Encodes the octets of the characters that a test picks. -/
def encode (unsafe_ : Char → Bool) (cs : List Char) : List Char :=
  cs.flatMap fun c => if unsafe_ c then (String.utf8EncodeChar c).flatMap encodeOctet else [c]

/-- The value of a hexadecimal digit. -/
def digit? (c : Char) : Option Nat :=
  if '0' ≤ c && c ≤ '9' then some (c.toNat - 48)
  else if 'a' ≤ c && c ≤ 'f' then some (c.toNat - 87)
  else if 'A' ≤ c && c ≤ 'F' then some (c.toNat - 55)
  else none

/-- The octets of a text in which encoded octets are decoded. A percent sign without two digits
stands for itself. -/
def decode : List Char → List UInt8
  | [] => []
  | '%' :: a :: b :: cs =>
    match digit? a, digit? b with
    | some x, some y => UInt8.ofNat (x * 16 + y) :: decode cs
    | _, _ => String.utf8EncodeChar '%' ++ decode (a :: b :: cs)
  | c :: cs => String.utf8EncodeChar c ++ decode cs

/-- Control characters and all beyond ASCII. -/
def isControl (c : Char) : Bool := c.toNat < 0x20 || 0x7E < c.toNat

/-- What is encoded in a fragment. -/
def inFragment (c : Char) : Bool := isControl c || [' ', '"', '<', '>', Char.ofNat 0x60].contains c

/-- What is encoded in a query; one set of schemes adds the single quote. -/
def inQuery (special : Bool) (c : Char) : Bool :=
  isControl c || [' ', '"', '#', '<', '>'].contains c || (special && c.toNat = 0x27)

/-- What is encoded in a path. -/
def inPath (c : Char) : Bool :=
  inFragment c || ['#', '?', Char.ofNat 0x7B, Char.ofNat 0x7D].contains c

/-- What is encoded in a user name or a password. -/
def inUser (c : Char) : Bool :=
  inPath c || ['/', ':', ';', '=', '@', '[', '\\', ']', '^', '|'].contains c

end BearerSession.Percent
