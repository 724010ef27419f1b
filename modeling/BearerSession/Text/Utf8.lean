namespace BearerSession

/-- One unit of an arrived text: a character, or `none` for an octet that belongs to none. -/
abbrev Glyph := Option Char

namespace Glyph

/-- The number of octets a unit was decoded from. -/
def octets : Glyph → Nat
  | some c => c.utf8Size
  | none => 1

/-- The characters of a text without stray octets. -/
def text? : List Glyph → Option (List Char)
  | [] => some []
  | some c :: gs => (text? gs).map (c :: ·)
  | none :: _ => none

end Glyph

namespace Utf8

/-- Whether an octet continues a character. -/
def isTail (b : UInt8) : Bool := 0x80 ≤ b && b ≤ 0xBF

/-- The six low bits that a continuing octet carries. -/
def tailBits (b : UInt8) : Nat := b.toNat % 64

/-- How the first octet of a character fixes the rest: how many octets follow, the bounds of the
next one, and the bits that the first one carries. Overlong forms and surrogates are ruled out by
the bounds. -/
def lead? (b : UInt8) : Option (Nat × UInt8 × UInt8 × Nat) :=
  if 0xC2 ≤ b && b ≤ 0xDF then some (1, 0x80, 0xBF, b.toNat % 32)
  else if b = 0xE0 then some (2, 0xA0, 0xBF, 0)
  else if b = 0xED then some (2, 0x80, 0x9F, 13)
  else if 0xE1 ≤ b && b ≤ 0xEF then some (2, 0x80, 0xBF, b.toNat % 16)
  else if b = 0xF0 then some (3, 0x90, 0xBF, 0)
  else if 0xF1 ≤ b && b ≤ 0xF3 then some (3, 0x80, 0xBF, b.toNat % 8)
  else if b = 0xF4 then some (3, 0x80, 0x8F, 4)
  else none

/-- The character that starts with an octet, and how many of the following octets belong to it. -/
def first? (b : UInt8) (bs : List UInt8) : Option (Char × Nat) :=
  if b < 0x80 then some (Char.ofNat b.toNat, 0)
  else
    match lead? b, bs with
    | some (1, low, high, bits), c :: _ =>
      if low ≤ c && c ≤ high then some (Char.ofNat (bits * 64 + tailBits c), 1) else none
    | some (2, low, high, bits), c :: d :: _ =>
      if low ≤ c && c ≤ high && isTail d then
        some (Char.ofNat ((bits * 64 + tailBits c) * 64 + tailBits d), 2)
      else none
    | some (3, low, high, bits), c :: d :: e :: _ =>
      if low ≤ c && c ≤ high && isTail d && isTail e then
        some (Char.ofNat (((bits * 64 + tailBits c) * 64 + tailBits d) * 64 + tailBits e), 3)
      else none
    | _, _ => none

/-- Decodes octets in order, the first `taken` of which were decoded before. -/
def decodeAfter : Nat → List UInt8 → List Glyph
  | _, [] => []
  | taken + 1, _ :: bs => decodeAfter taken bs
  | 0, b :: bs =>
    match first? b bs with
    | some (c, taken) => some c :: decodeAfter taken bs
    | none => none :: decodeAfter 0 bs

/-- Decodes octets in order; an octet that starts no well-formed character stands alone. -/
def decode (bs : List UInt8) : List Glyph := decodeAfter 0 bs

end Utf8

/-- What a file, a reply or a vault item holds: a text, or octets that are no text. -/
inductive Content
  | text (s : String)
  | octets (bs : List UInt8)
  deriving DecidableEq

namespace Content

/-- Octets that form a text become that text. -/
def ofOctets (bs : List UInt8) : Content :=
  match Glyph.text? (Utf8.decode bs) with
  | some cs => .text (String.ofList cs)
  | none => .octets bs

/-- The content as a text, where it is one. -/
def text? : Content → Option String
  | text s => some s
  | octets _ => none

end Content

end BearerSession
