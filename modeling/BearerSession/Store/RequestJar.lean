import BearerSession.Store.Entry
import BearerSession.Text.Characters

namespace BearerSession

/-- A cookie. One that came with the request does not die. -/
structure Cookie where
  value : Secret
  expiresAt : Option Instant
  deriving DecidableEq

/-- Whether a cookie still counts at some time. -/
def Cookie.isLive (c : Cookie) (now : Instant) : Bool :=
  match c.expiresAt with
  | some t => now < t
  | none => true

/-- What a response tells about a cookie. -/
inductive CookieChange
  | set (value : Secret) (maxAge : Int)
  | remove
  deriving DecidableEq

/-- The cookies as the request sees them, and the changes so far, which the response tells of. -/
structure RequestJar where
  cookies : SortedMap Cookie := .empty
  changes : SortedMap CookieChange := .empty
  path : String := "/"
  secure : Bool := false
  deriving DecidableEq

namespace RequestJar

/-- The characters of a cookie's value. -/
def isOctet (c : Char) : Bool := isVisible c && !(['"', ',', ';', '\\'].contains c)

/-- The cookie of one part of a request's header: a name and a value around the first equals sign,
both without white space around them, the value also without quotes around it. -/
def readPair? (part : List Char) : Option (String × String) :=
  match splitFirst? '=' (trimBlank part) with
  | none => none
  | some (name, value) =>
    let name := trimBlank name
    if name = [] then none
    else some (String.ofList name, String.ofList (trimWhere (· = '"') (trimBlank value)))

/-- The store for a request with the given cookies. Parts that are no cookie are passed over, and
of two cookies with one name the later counts. -/
def ofHeader (header : Option String) : RequestJar :=
  match header with
  | none => {}
  | some header =>
    let pairs := (splitAll ';' header.toList).filterMap readPair?
    { cookies := SortedMap.ofList (pairs.map fun (name, value) => (name, ⟨⟨value⟩, none⟩)) }

def get (jar : RequestJar) (now : Instant) (key : String) : Option Secret :=
  ((jar.cookies.get? key).filter fun c => c.isLive now).map (·.value)

/-- Writes a value, if it can be carried by a cookie. -/
def set (jar : RequestJar) (now : Instant) (key : String) (value : Secret) (ttl : Span) :
    Except StoreError RequestJar :=
  if isToken key && value.expose.toList.all isOctet then
    .ok { jar with
      cookies := jar.cookies.insert key ⟨value, some (now.plus ttl)⟩
      changes := jar.changes.insert key (.set value (max ttl.seconds 0)) }
  else .error (.invalidValue key)

/-- Forgets a key, if it can name a cookie. -/
def remove (jar : RequestJar) (key : String) : Except StoreError RequestJar :=
  if isToken key then
    .ok { jar with cookies := jar.cookies.erase key, changes := jar.changes.insert key .remove }
  else .error (.invalidValue key)

/-- The header that tells of one change. -/
def line (jar : RequestJar) (name : String) (change : CookieChange) : String :=
  let (value, maxAge) := match change with
    | .set value maxAge => (value.expose, maxAge)
    | .remove => ("", 0)
  name ++ "=" ++ value ++ "; Path=" ++ jar.path ++ "; Max-Age=" ++ toString maxAge
    ++ "; SameSite=Lax" ++ (if jar.secure then "; Secure" else "")

/-- The headers that tell of all changes, in the order of their keys. -/
def finish (jar : RequestJar) : List String :=
  jar.changes.toList.map fun (name, change) => jar.line name change

end RequestJar

end BearerSession
