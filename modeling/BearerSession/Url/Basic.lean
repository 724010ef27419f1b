import BearerSession.Url.Authority
import BearerSession.Url.Path

namespace BearerSession

/-- An address in normal form. -/
structure Url where
  scheme : String
  authority : Option Authority := none
  path : UrlPath
  query : Option String := none
  fragment : Option String := none
  deriving DecidableEq, Repr

namespace Url

open UrlPath (isSlash)

/-- The port that a scheme implies, for the schemes that lead to a domain. -/
def defaultPort? (scheme : String) : Option Nat :=
  if scheme = "http" || scheme = "ws" then some 80
  else if scheme = "https" || scheme = "wss" then some 443
  else if scheme = "ftp" then some 21
  else none

/-- Whether a scheme leads to a domain or to a file. -/
def isSpecial (scheme : String) : Bool := (defaultPort? scheme).isSome || scheme = "file"

def target (u : Url) : String := u.path.text ++ (u.query.map ("?" ++ ·)).getD ""

/-- The text of an address. A path that would be taken for a host stands behind a dot. -/
def href (u : Url) : String :=
  let authority := match u.authority with
    | some a => "//" ++ a.text
    | none => if u.path.looksHosted then "/." else ""
  u.scheme ++ ":" ++ authority ++ u.target ++ (u.fragment.map ("#" ++ ·)).getD ""

/-- Whether a character may go on in a scheme. -/
def isSchemeChar (c : Char) : Bool := c.isAlphanum || c = '+' || c = '-' || c = '.'

/-- The scheme in lower case, and what follows its colon. -/
def readScheme? (cs : List Char) : Option (String × List Char) :=
  match cs with
  | [] => none
  | c :: _ =>
    if c.isAlpha then
      let name := cs.takeWhile isSchemeChar
      match cs.drop name.length with
      | ':' :: rest => some (String.ofList (name.map Char.toLower), rest)
      | _ => none
    else none

/-- Whether a character ends what leads to a host. -/
def endsAuthority (special : Bool) (c : Char) : Bool := isSlash special c || c = '?' || c = '#'

/-- Splits off the fragment and then the query. -/
def splitEnds (special : Bool) (cs : List Char) : List Char × Option String × Option String :=
  let (cs, fragment) := match splitFirst? '#' cs with
    | some (cs, f) => (cs, some (String.ofList (Percent.encode Percent.inFragment f)))
    | none => (cs, none)
  let (cs, query) := match splitFirst? '?' cs with
    | some (cs, q) => (cs, some (String.ofList (Percent.encode (Percent.inQuery special) q)))
    | none => (cs, none)
  (cs, query, fragment)

/-- Reads what follows the slashes in front of a host. -/
def readHosted (scheme : String) (cs : List Char) : Except UrlError Url := do
  let special := isSpecial scheme
  let text := cs.takeWhile fun c => !endsAuthority special c
  let rest := cs.drop text.length
  let (authority, front) ← Authority.read special (defaultPort? scheme) text rest.isEmpty
  let (path, query, fragment) := splitEnds special (front ++ rest)
  return ⟨scheme, some authority, .read special path, query, fragment⟩

/-- The host in front of the path of a file, which may be empty. A drive is no host. -/
def readFileHost (cs : List Char) : Except UrlError (List Char × List Char) := do
  let text := cs.takeWhile fun c => !endsAuthority true c
  if text.isEmpty || UrlPath.isDrive text then return ([], cs)
  else
    let host ← Host.ofDomain text
    return (if String.ofList host = "localhost" then [] else host, cs.drop text.length)

/-- Reads the address of a file. A path that begins with a drive has no host. -/
def readFile (cs : List Char) : Except UrlError Url := do
  let (host, cs) ← match cs with
    | a :: b :: rest => if isSlash true a && isSlash true b then readFileHost rest else pure ([], cs)
    | cs => pure ([], cs)
  let (pathText, query, fragment) := splitEnds true cs
  let (path, hasDrive) := UrlPath.readFile pathText
  let authority : Authority := { host := if hasDrive then "" else String.ofList host }
  return ⟨"file", some authority, path, query, fragment⟩

/-- Whether a character is ignored at the ends of an address. -/
def isOuter (c : Char) : Bool := c.toNat ≤ 0x20

/-- Whether a character is ignored everywhere in an address. -/
def isIgnored (c : Char) : Bool := c = '\t' || c = '\n' || c = '\r'

/-- Reads an absolute address. -/
def parse (s : String) : Except UrlError Url :=
  let cs := (trimWhere isOuter s.toList).filter fun c => !isIgnored c
  match readScheme? cs with
  | none => .error .relativeWithoutBase
  | some (scheme, rest) =>
    if scheme = "file" then readFile rest
    else if isSpecial scheme then readHosted scheme (rest.dropWhile (isSlash true))
    else
      match rest with
      | '/' :: '/' :: rest => readHosted scheme rest
      | '/' :: _ =>
        let (path, query, fragment) := splitEnds false rest
        .ok { scheme, path := .read false path, query, fragment }
      | rest =>
        let (text, query, fragment) := splitEnds false rest
        .ok { scheme, path := .flat (String.ofList (Percent.encode Percent.isControl text)), query, fragment }

end Url

end BearerSession
