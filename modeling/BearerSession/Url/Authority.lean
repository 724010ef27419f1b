import BearerSession.Url.Host

namespace BearerSession

/-- A user, a host and a port. -/
structure Authority where
  username : String := ""
  password : Option String := none
  host : String
  port : Option Nat := none
  deriving DecidableEq, Repr

namespace Authority

/-- The text of the user in front of the host. -/
def userText (a : Authority) : String :=
  let password := (a.password.map (":" ++ ·)).getD ""
  if a.username.isEmpty && a.password.isNone then "" else a.username ++ password ++ "@"

def text (a : Authority) : String :=
  a.userText ++ a.host ++ (a.port.map fun p => ":" ++ toString p).getD ""

def splitLast? (separator : Char) (cs : List Char) : Option (List Char × List Char) :=
  (splitFirst? separator cs.reverse).map fun (after, before) => (before.reverse, after.reverse)

/-- The end of a host: a colon outside of brackets, or the end of its text. -/
def splitHost (inside : Bool) : List Char → List Char × Option (List Char)
  | [] => ([], none)
  | c :: cs =>
    if c = ':' && !inside then ([], some cs)
    else
      let (host, rest) := splitHost (if c = '[' then true else if c = ']' then false else inside) cs
      (c :: host, rest)

/-- A port other than the implied one, and what follows it. A backslash ends a port. -/
def readPort (implied : Option Nat) (cs : List Char) : Except UrlError (Option Nat × List Char) :=
  let digits := cs.takeWhile (· ≠ '\\')
  match Host.number? 10 digits with
  | none => .error .invalidPort
  | some n =>
    if 65535 < n then .error .invalidPort
    else
      .ok (if digits.isEmpty || implied = some n then none else some n, cs.drop digits.length)

/-- A user name and a password. An empty password counts as none. -/
def readUser (cs : List Char) : String × Option String :=
  let encode (cs : List Char) := String.ofList (Percent.encode Percent.inUser cs)
  match splitFirst? ':' cs with
  | none => (encode cs, none)
  | some (user, []) => (encode user, none)
  | some (user, password) => (encode user, some (encode password))

/-- Reads an authority, and tells what of it belongs to the path. A host may be empty unless its
scheme is special, but nothing may lead to an empty host or follow it. -/
def read (special : Bool) (implied : Option Nat) (cs : List Char) (atEnd : Bool) :
    Except UrlError (Authority × List Char) := do
  let ((username, password), rest) ← match splitLast? '@' cs with
    | none => pure (("", none), cs)
    | some ([], []) => if atEnd then pure (("", none), []) else .error .emptyHost
    | some (user, rest) => pure (readUser user, rest)
  let (hostText, portText) := splitHost false rest
  if special && hostText.isEmpty then .error .emptyHost
  else
    let host ← if special then Host.ofDomain hostText else Host.opaqueText hostText
    if host.isEmpty && portText.isSome then .error .emptyHost
    else
      let (port, rest) ← match portText with
        | some cs => readPort implied cs
        | none => pure (none, [])
      let authority : Authority := ⟨username, password, String.ofList host, port⟩
      if host.isEmpty && !authority.userText.isEmpty then .error .emptyHost
      else return (authority, rest)

end Authority

end BearerSession
