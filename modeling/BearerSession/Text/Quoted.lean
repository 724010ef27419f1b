import BearerSession.Text.Printable

namespace BearerSession.Quoted

/-- A number in lower-case hexadecimal digits. -/
def hexText (n : Nat) : List Char := Nat.toDigits 16 n

/-- One character inside quotes. A single quote is escaped only on request. -/
def escape (single : Bool) (c : Char) : List Char :=
  if c = '"' then ['\\', '"']
  else if c = '\\' then ['\\', '\\']
  else if c = '\n' then ['\\', 'n']
  else if c = '\r' then ['\\', 'r']
  else if c = '\t' then ['\\', 't']
  else if c.toNat = 0 then ['\\', '0']
  else if c.toNat = 0x27 && single then ['\\', c]
  else if isPrintable c then [c]
  else ['\\', 'u', Char.ofNat 0x7B] ++ hexText c.toNat ++ [Char.ofNat 0x7D]

def text (s : String) : String :=
  String.ofList (['"'] ++ s.toList.flatMap (escape false) ++ ['"'])

/-- A path in quotes; here a single quote is escaped as well. -/
def path (s : String) : String :=
  String.ofList (['"'] ++ s.toList.flatMap (escape true) ++ ['"'])

end BearerSession.Quoted
