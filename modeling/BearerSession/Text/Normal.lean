import BearerSession.Text.Composites
import BearerSession.Text.MarkOrder

namespace BearerSession.Normal

/-- A character, a mark behind it and the character that means both. -/
structure Composite where
  base : Char
  mark : Char
  whole : Char

/-- A text as pairs of neighbours. -/
def pairs : List Char → List (Char × Char)
  | a :: b :: cs => (a, b) :: pairs cs
  | _ => []

/-- The rows of a table as composites. -/
def compositesOf (rows : List (Nat × String)) : List Composite :=
  rows.flatMap fun (mark, text) =>
    (pairs text.toList).map fun (base, whole) => ⟨base, Char.ofNat mark, whole⟩

/-- The characters that a base and a mark make. -/
def made : List Composite := compositesOf composites

/-- The characters that a base and a mark make, and those that are only taken apart. -/
def parted : List Composite := made ++ compositesOf dissolved

/-- The character that is meant by another one. -/
def meant? (c : Char) : Option Char :=
  duplicates.findSome? fun (first, text) =>
    if first ≤ c.toNat then text.toList[c.toNat - first]? else none

/-- A syllable of Hangul as its two or three letters. -/
def syllableLetters? (c : Char) : Option (List Char) :=
  if 0xAC00 ≤ c.toNat && c.toNat < 0xD7A4 then
    let i := c.toNat - 0xAC00
    let final := if i % 28 = 0 then [] else [Char.ofNat (0x11A7 + i % 28)]
    some ([Char.ofNat (0x1100 + i / 588), Char.ofNat (0x1161 + i % 588 / 28)] ++ final)
  else none

/-- A character without its marks, and the marks behind it; fuel bounds the marks. -/
def takeApart : Nat → Char → List Char
  | 0, c => [c]
  | fuel + 1, c =>
    if c.toNat < 0x80 then [c]
    else
      match syllableLetters? c, meant? c, parted.find? (·.whole = c) with
      | some letters, _, _ => letters
      | none, some d, _ => takeApart fuel d
      | none, none, some p => takeApart fuel p.base ++ takeApart fuel p.mark
      | none, none, none => [c]

/-- A character without its marks, and the marks behind it. No character has more than four. -/
def decompose (c : Char) : List Char := takeApart 5 c

/-- Puts a mark in front of a text, behind the marks of lower classes. -/
def insertMark (c : Char) : List Char → List Char
  | [] => [c]
  | d :: ds =>
    if combiningClass d ≠ 0 && combiningClass d < combiningClass c then d :: insertMark c ds
    else c :: d :: ds

/-- A text in which marks stand in the order of their classes. -/
def order (cs : List Char) : List Char := cs.foldr insertMark []

/-- A syllable of Hangul from its letters. -/
def syllable? (a b : Char) : Option Char :=
  let (m, n) := (a.toNat, b.toNat)
  if 0x1100 ≤ m && m < 0x1113 && 0x1161 ≤ n && n < 0x1176 then
    some (Char.ofNat (0xAC00 + ((m - 0x1100) * 21 + (n - 0x1161)) * 28))
  else if 0xAC00 ≤ m && m < 0xD7A4 && (m - 0xAC00) % 28 = 0 && 0x11A7 < n && n < 0x11C3 then
    some (Char.ofNat (m + (n - 0x11A7)))
  else none

/-- The character that two characters make. -/
def whole? (a b : Char) : Option Char :=
  if b.toNat < 0x300 then none
  else
    (syllable? a b).orElse fun _ => (made.find? fun p => p.base = a && p.mark = b).map (·.whole)

/-- Joins what follows a character to it. Marks that stand between keep off those of their own class
and of lower ones. -/
def join (base : Char) (between : List Char) : List Char → List Char
  | [] => base :: between.reverse
  | c :: cs =>
    let isFree := between.head?.all fun d => combiningClass d < combiningClass c
    match if isFree then whole? base c else none with
    | some whole => join whole between cs
    | none =>
      if combiningClass c = 0 then base :: between.reverse ++ join c [] cs
      else join base (c :: between) cs

/-- A text in which characters and their marks are joined. -/
def compose : List Char → List Char
  | [] => []
  | c :: cs => if combiningClass c = 0 then join c [] cs else c :: compose cs

def form (cs : List Char) : List Char := compose (order (cs.flatMap decompose))

end BearerSession.Normal
