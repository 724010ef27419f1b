import BearerSession.Json.Token
import BearerSession.Text.Quoted

namespace BearerSession.Json

/-- What stood where something else was expected. -/
inductive Found
  | null
  | bool (b : Bool)
  | number (n : Number)
  | string (s : String)
  | sequence
  | map
  deriving DecidableEq

/-- A value that does not have the expected structure. -/
inductive Mismatch
  | wrongType (found : Found) (expected : String)
  | wrongValue (found : Found) (expected : String)
  | wrongLength (length : Nat) (expected : String)
  | missingField (name : String)
  | duplicateField (name : String)
  | noVariant (type : String)
  | timestamp
  deriving DecidableEq

/-- Why a text or a value cannot be read as a structure. -/
inductive ReadError
  | syntaxFault (f : Fault)
  | mismatch (m : Mismatch)
  deriving DecidableEq

def backquoted (s : String) : String :=
  String.ofList ([Char.ofNat 0x60] ++ s.toList ++ [Char.ofNat 0x60])

namespace Found

/-- What a leaf is. -/
def ofLeaf : Leaf → Found
  | .null => .null
  | .bool b => .bool b
  | .number n => .number n
  | .string s => .string s

/-- The words for what was found. -/
def text : Found → String
  | null => "null"
  | bool b => "boolean " ++ backquoted (String.ofList (boolWord b))
  | number (.whole n) => "integer " ++ backquoted (toString n.val)
  | number (.binary x) => "floating point " ++ backquoted (String.ofList x.text)
  | string s => "string " ++ Quoted.text s
  | sequence => "sequence"
  | map => "map"
where
  boolWord (b : Bool) : List Char := if b then ['t', 'r', 'u', 'e'] else ['f', 'a', 'l', 's', 'e']

end Found

/-- The words for a mismatch. -/
def Mismatch.message : Mismatch → String
  | wrongType found expected => "invalid type: " ++ found.text ++ ", expected " ++ expected
  | wrongValue found expected => "invalid value: " ++ found.text ++ ", expected " ++ expected
  | wrongLength n expected => "invalid length " ++ toString n ++ ", expected " ++ expected
  | missingField name => "missing field " ++ backquoted name
  | duplicateField name => "duplicate field " ++ backquoted name
  | noVariant type => "data did not match any variant of untagged enum " ++ type
  | timestamp => "<timestamp>"

/-- The words for a failed reading. -/
def ReadError.message : ReadError → String
  | syntaxFault .malformed => "<json syntax>"
  | syntaxFault .truncated => "<json eof>"
  | mismatch m => m.message

end BearerSession.Json
