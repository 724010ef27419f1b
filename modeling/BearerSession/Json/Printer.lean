import BearerSession.Json.Value

namespace BearerSession.Json

/-- The digit of a number below sixteen, in lower case. -/
def hexDigit (n : Nat) : Char := (Nat.toDigits 16 n).headD '0'

/-- One character of a string. -/
def escape (c : Char) : List Char :=
  if c = '"' then ['\\', '"']
  else if c = '\\' then ['\\', '\\']
  else if c.toNat = 0x8 then ['\\', 'b']
  else if c.toNat = 0xC then ['\\', 'f']
  else if c = '\n' then ['\\', 'n']
  else if c = '\r' then ['\\', 'r']
  else if c = '\t' then ['\\', 't']
  else if c.toNat < 0x20 then
    ['\\', 'u', '0', '0', hexDigit (c.toNat / 16), hexDigit (c.toNat % 16)]
  else [c]

def quote (s : String) : List Char := '"' :: (s.toList.flatMap escape ++ ['"'])

def Whole.text (n : Whole) : List Char :=
  if n.val < 0 then '-' :: Nat.toDigits 10 n.val.natAbs else Nat.toDigits 10 n.val.natAbs

/-- A number. -/
def Number.text : Number → List Char
  | .whole n => n.text
  | .binary x => x.text

def boolText (b : Bool) : List Char := if b then ['t', 'r', 'u', 'e'] else ['f', 'a', 'l', 's', 'e']

namespace Value

mutual

/-- A value without spaces. -/
def compact : Value → List Char
  | .null => ['n', 'u', 'l', 'l']
  | .bool b => boolText b
  | .number n => n.text
  | .string s => quote s
  | .array [] => ['[', ']']
  | .array (v :: vs) => '[' :: (compact v ++ compactItems vs)
  | .object [] => ['{', '}']
  | .object ((name, v) :: fields) =>
    '{' :: (quote name ++ ':' :: (compact v ++ compactFields fields))

/-- The further items of an array, to its end. -/
def compactItems : List Value → List Char
  | [] => [']']
  | v :: vs => ',' :: (compact v ++ compactItems vs)

/-- The further fields of an object, to its end. -/
def compactFields : List (String × Value) → List Char
  | [] => ['}']
  | (name, v) :: fields => ',' :: (quote name ++ ':' :: (compact v ++ compactFields fields))

end

def text (v : Value) : String := String.ofList v.compact

/-- A new line, indented by two spaces for each level. -/
def newline (level : Nat) : List Char := '\n' :: List.replicate (2 * level) ' '

mutual

/-- A value over indented lines, from a level of nesting on. -/
def spread (level : Nat) : Value → List Char
  | .null => ['n', 'u', 'l', 'l']
  | .bool b => boolText b
  | .number n => n.text
  | .string s => quote s
  | .array [] => ['[', ']']
  | .array (v :: vs) =>
    '[' :: (newline (level + 1) ++ (spread (level + 1) v ++ spreadItems level vs))
  | .object [] => ['{', '}']
  | .object ((name, v) :: fields) =>
    '{' :: (newline (level + 1) ++
      (quote name ++ ':' :: ' ' :: (spread (level + 1) v ++ spreadFields level fields)))

/-- The further items of an array, to its end. -/
def spreadItems (level : Nat) : List Value → List Char
  | [] => newline level ++ [']']
  | v :: vs => ',' :: (newline (level + 1) ++ (spread (level + 1) v ++ spreadItems level vs))

/-- The further fields of an object, to its end. -/
def spreadFields (level : Nat) : List (String × Value) → List Char
  | [] => newline level ++ ['}']
  | (name, v) :: fields =>
    ',' :: (newline (level + 1) ++
      (quote name ++ ':' :: ' ' :: (spread (level + 1) v ++ spreadFields level fields)))

end

def pretty (v : Value) : String := String.ofList (v.spread 0)

end Value

end BearerSession.Json
