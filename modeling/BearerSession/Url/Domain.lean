import BearerSession.Text.Direction
import BearerSession.Text.Joining
import BearerSession.Text.Normal
import BearerSession.Text.Printable
import BearerSession.Text.Utf8
import BearerSession.Url.Folding
import BearerSession.Url.Percent
import BearerSession.Url.Punycode

namespace BearerSession.Domain

/-- The ASCII characters that no domain name holds. -/
def isForbidden (c : Char) : Bool :=
  c.toNat ≤ 0x20 || c.toNat = 0x7F
    || ['#', '%', '/', ':', '<', '>', '?', '@', '[', '\\', ']', '^', '|'].contains c

/-- The code points at which printable characters begin and end that no domain name holds. -/
def refusedTurns : List Nat :=
  [168, 169, 175, 176, 180, 181, 184, 185, 728, 734, 890, 891, 900, 902, 8125, 8126, 8127, 8130,
   8141, 8144, 8157, 8160, 8173, 8174, 8190, 8191, 8215, 8216, 8228, 8231, 8254, 8255, 8263, 8266,
   8448, 8450, 8453, 8455, 9352, 9372, 10868, 10869, 12272, 12288, 12443, 12445, 12783, 12784,
   13250, 13251, 13255, 13256, 13272, 13273, 64606, 64612, 65018, 65020, 65042, 65044, 65046,
   65047, 65049, 65050, 65072, 65073, 65095, 65101, 65106, 65107, 65109, 65111, 65119, 65120,
   65124, 65126, 65128, 65129, 65130, 65132, 65136, 65137, 65138, 65139, 65140, 65141, 65142,
   65143, 65144, 65145, 65146, 65147, 65148, 65149, 65150, 65151, 65507, 65508, 65532, 65534,
   127232, 127233]

/-- Whether a character beyond ASCII may stand in a folded label. -/
def isAllowed (c : Char) : Bool :=
  (isPrintable c || isMark c || c = Joining.separator || c = Joining.joiner)
    && !inTurns refusedTurns c

/-- A folded name in normal form. Folding sees characters without their marks. -/
def fold (cs : List Char) : List Char :=
  Normal.form ((cs.flatMap Normal.decompose).flatMap Folding.fold)

/-- Whether a label can be written in Punycode: it does not begin with a mark, and each of its
characters may stand where it does. -/
def isLabel (cs : List Char) : Bool :=
  !cs.head?.any isMark && Joining.allFit [] cs && cs.all fun c => c.toNat < 0x80 || isAllowed c

/-- What a label in Punycode begins with. -/
def mark : List Char := ['x', 'n', '-', '-']

/-- A label, as it is read and in ASCII. -/
structure Label where
  shown : List Char
  ascii : List Char

/-- The label of a folded text. One that bears the mark must be the Punycode of some other
characters, already folded. -/
def Label.of? (cs : List Char) : Option Label :=
  if mark.isPrefixOf cs then do
    let shown ← Punycode.decode? (cs.drop 4)
    if shown.any (fun c => 0x80 ≤ c.toNat) && isLabel shown && fold shown = shown then
      some ⟨shown, cs⟩
    else none
  else if cs.all fun c => c.toNat < 0x80 then some ⟨cs, cs⟩
  else if isLabel cs then some ⟨cs, mark ++ Punycode.encode cs⟩
  else none

/-- Whether a label can be told apart from its neighbours when some are written from the right: it
has one direction, begins with a letter of that direction and ends with a letter or a digit. -/
def hasDirection (cs : List Char) : Bool :=
  let ds := cs.map Direction.ofChar
  let last := (ds.reverse.dropWhile (· = .mark)).head?
  match ds.head? with
  | none => true
  | some .left =>
    ds.all (fun d => d ≠ .right && d ≠ .easternDigit) && (last = some .left || last = some .westernDigit)
  | some .right =>
    ds.all (· ≠ .left) && !(ds.contains .westernDigit && ds.contains .easternDigit)
      && (last = some .right || last = some .westernDigit || last = some .easternDigit)
  | some _ => false

/-- Whether a character makes a name one that is written from the right in part. -/
def isFromRight (c : Char) : Bool :=
  Direction.ofChar c = .right || Direction.ofChar c = .easternDigit

/-- A domain name in ASCII, if it can be one. -/
def toAscii? (octets : List UInt8) : Option (List Char) := do
  let cs ← Glyph.text? (Utf8.decode octets)
  let labels ← (splitAll '.' (fold cs)).mapM Label.of?
  let name := List.intercalate ['.'] (labels.map (·.ascii))
  let fromRight := labels.any fun l => l.shown.any isFromRight
  if name.any isForbidden || (fromRight && !labels.all fun l => hasDirection l.shown) then none
  else some name

end BearerSession.Domain
