import BearerSession.Url.Domain

namespace BearerSession

/-- Why a text is no absolute address. -/
inductive UrlError
  | relativeWithoutBase
  | emptyHost
  | invalidPort
  | invalidIpv4
  | invalidIpv6
  | invalidDomain
  | invalidDomainCharacter
  deriving DecidableEq, Repr

/-- The words for a failure. -/
def UrlError.message : UrlError → String
  | relativeWithoutBase => "relative URL without a base"
  | emptyHost => "empty host"
  | invalidPort => "invalid port number"
  | invalidIpv4 => "invalid IPv4 address"
  | invalidIpv6 => "invalid IPv6 address"
  | invalidDomain => "invalid international domain name"
  | invalidDomainCharacter => "invalid domain character"

namespace Host

/-- The digits of a number in a radix, if all are digits. -/
def number? (radix : Nat) (cs : List Char) : Option Nat :=
  cs.foldlM (fun n c => do
    let d ← Percent.digit? c
    if d < radix then some (n * radix + d) else none) 0

/-- A part of an address of four octets: decimal, octal behind a zero or hexadecimal behind a zero
and an x. -/
def part? (cs : List Char) : Option Nat :=
  match cs with
  | [] => none
  | '0' :: 'x' :: ds => number? 16 ds
  | '0' :: 'X' :: ds => number? 16 ds
  | '0' :: d :: ds => number? 8 (d :: ds)
  | cs => number? 10 cs

/-- The parts of a host between dots, without an empty one at its end. -/
def parts (cs : List Char) : List (List Char) :=
  let ps := splitAll '.' cs
  if ps.getLast? = some [] then ps.dropLast else ps

/-- Whether the last part of a host is a number, which makes it an address. -/
def endsInNumber (cs : List Char) : Bool :=
  match (parts cs).getLast? with
  | none => false
  | some [] => false
  | some last => (last.all fun c => '0' ≤ c && c ≤ '9') || (part? last).isSome

/-- An address of four octets as a number; its last part fills what the others leave. -/
def ipv4? (cs : List Char) : Option Nat := do
  let numbers ← (parts cs).mapM part?
  if 4 < numbers.length then none
  else
    let last ← numbers.getLast?
    let front := numbers.dropLast
    if Nat.pow 256 (4 - front.length) ≤ last || front.any (255 < ·) then none
    else some (front.foldl (fun n x => n * 256 + x) 0 * Nat.pow 256 (4 - front.length) + last)

/-- The text of an address of four octets. -/
def ipv4Text (n : Nat) : List Char :=
  List.intercalate ['.'] ([n / 16777216, n / 65536 % 256, n / 256 % 256, n % 256].map
    (Nat.toDigits 10))

/-- Four octets in plain decimal, as they end a long address. -/
def tail4? (cs : List Char) : Option (List Nat) := do
  let ps := splitAll '.' cs
  let ns ← ps.mapM fun p =>
    match p with
    | ['0'] => some 0
    | '0' :: _ => none
    | [] => none
    | p => do
      let n ← number? 10 p
      if n ≤ 255 && p.all (fun c => '0' ≤ c && c ≤ '9') then some n else none
  match ns with
  | [a, b, c, d] => some [a * 256 + b, c * 256 + d]
  | _ => none

/-- Groups of up to four hexadecimal digits; the last may be four octets in decimal. -/
def groups? : List (List Char) → Option (List Nat)
  | [] => some []
  | [g] =>
    if g.contains '.' then tail4? g
    else if g.isEmpty || 4 < g.length then none
    else do return [← number? 16 g]
  | g :: gs =>
    if g.isEmpty || 4 < g.length then none
    else do
      let n ← number? 16 g
      return n :: (← groups? gs)

/-- The groups on one side of a gap. -/
def side? (cs : List Char) : Option (List Nat) := if cs.isEmpty then some [] else groups? (splitAll ':' cs)

/-- The text before and after the first two colons in a row. -/
def splitGap? : List Char → Option (List Char × List Char)
  | ':' :: ':' :: cs => some ([], cs)
  | c :: cs => (splitGap? cs).map fun (a, b) => (c :: a, b)
  | [] => none

/-- An address of sixteen octets as eight groups. Two colons stand for at least one group of zeros. -/
def ipv6? (cs : List Char) : Option (List Nat) :=
  match splitGap? cs with
  | some (front, back) => do
    let front ← if front.contains '.' then none else side? front
    let back ← side? back
    if 8 ≤ front.length + back.length then none
    else some (front ++ List.replicate (8 - front.length - back.length) 0 ++ back)
  | none => do
    let gs ← groups? (splitAll ':' cs)
    if gs.length = 8 then some gs else none

/-- The length of the run of zeros at the front. -/
def zeros (gs : List Nat) : Nat := (gs.takeWhile (· = 0)).length

/-- The start and the length of the first longest run of zeros. -/
def longestZeros (gs : List Nat) : Nat × Nat :=
  (List.range gs.length).foldl
    (fun best i => if best.2 < zeros (gs.drop i) then (i, zeros (gs.drop i)) else best) (0, 0)

def groupText (gs : List Nat) : List Char := List.intercalate [':'] (gs.map (Nat.toDigits 16))

/-- The text of an address of sixteen octets, in which the longest run of zeros is left out. -/
def ipv6Text (gs : List Nat) : List Char :=
  let (start, length) := longestZeros gs
  if length < 2 then groupText gs
  else groupText (gs.take start) ++ [':', ':'] ++ groupText (gs.drop (start + length))

/-- A host in brackets. -/
def bracketed? (cs : List Char) : Except UrlError (List Char) :=
  if cs.getLast? = some ']' then
    match ipv6? (cs.drop 1).dropLast with
    | some gs => .ok (['['] ++ ipv6Text gs ++ [']'])
    | none => .error .invalidIpv6
  else .error .invalidIpv6

/-- The host of a scheme that leads to a domain. -/
def ofDomain (cs : List Char) : Except UrlError (List Char) :=
  if cs.head? = some '[' then bracketed? cs
  else
    match Domain.toAscii? (Percent.decode cs) with
    | none => .error .invalidDomain
    | some [] => .error .emptyHost
    | some name =>
      if endsInNumber name then
        match ipv4? name with
        | some n => .ok (ipv4Text n)
        | none => .error .invalidIpv4
      else .ok name

/-- The characters that no host of another scheme holds. -/
def isForbidden (c : Char) : Bool :=
  c.toNat = 0 || ['\t', '\n', '\r', ' ', '#', '/', ':', '<', '>', '?', '@', '[', '\\', ']', '^',
    '|'].contains c

/-- The host of a scheme that gives it a meaning of its own. -/
def opaqueText (cs : List Char) : Except UrlError (List Char) :=
  if cs.head? = some '[' then bracketed? cs
  else if cs.any isForbidden then .error .invalidDomainCharacter
  else .ok (Percent.encode Percent.isControl cs)

end Host

end BearerSession
