namespace BearerSession.Punycode

/-- The threshold of a digit at a position under a bias. -/
def threshold (k bias : Nat) : Nat :=
  if k ≤ bias then 1 else if bias + 26 ≤ k then 26 else k - bias

/-- Divides until a number is small, counting by the base. -/
def reduce : Nat → Nat → Nat → Nat × Nat
  | 0, delta, k => (delta, k)
  | fuel + 1, delta, k => if 455 < delta then reduce fuel (delta / 35) (k + 36) else (delta, k)

/-- The bias after a delta. -/
def adapt (delta count : Nat) (isFirst : Bool) : Nat :=
  let delta := if isFirst then delta / 700 else delta / 2
  let (delta, k) := reduce 64 (delta + delta / count) 0
  k + 36 * delta / (delta + 38)

def digit (n : Nat) : Char := if n < 26 then Char.ofNat (97 + n) else Char.ofNat (22 + n)

/-- The number of a digit. -/
def digitValue? (c : Char) : Option Nat :=
  if 'a' ≤ c && c ≤ 'z' then some (c.toNat - 97)
  else if 'A' ≤ c && c ≤ 'Z' then some (c.toNat - 65)
  else if '0' ≤ c && c ≤ '9' then some (c.toNat - 22)
  else none

/-- A delta as digits of growing weight. -/
def deltaDigits : Nat → Nat → Nat → Nat → List Char
  | 0, _, _, _ => []
  | fuel + 1, q, k, bias =>
    let t := threshold k bias
    if q < t then [digit q]
    else digit (t + (q - t) % (36 - t)) :: deltaDigits fuel ((q - t) / (36 - t)) (k + 36) bias

/-- What is kept while the code points of a label are encoded. -/
structure Encoder where
  delta : Nat
  bias : Nat
  handled : Nat
  output : List Char

/-- Passes over the label once for all code points equal to `n`. -/
def encodePass (n basics : Nat) (e : Encoder) : List Nat → Encoder
  | [] => e
  | c :: cs =>
    if c < n then encodePass n basics { e with delta := e.delta + 1 } cs
    else if c = n then
      let output := e.output ++ deltaDigits 64 e.delta 36 e.bias
      let bias := adapt e.delta (e.handled + 1) (e.handled = basics)
      encodePass n basics ⟨0, bias, e.handled + 1, output⟩ cs
    else encodePass n basics e cs

/-- Encodes the code points from `n` on, in their order; fuel bounds the distinct ones. -/
def encodeFrom : Nat → Nat → Nat → Encoder → List Nat → List Char
  | 0, _, _, e, _ => e.output
  | fuel + 1, n, basics, e, cs =>
    match (cs.filter (n ≤ ·)).min? with
    | none => e.output
    | some next =>
      let e := { e with delta := e.delta + (next - n) * (e.handled + 1) }
      let e := encodePass next basics e cs
      encodeFrom fuel (next + 1) basics { e with delta := e.delta + 1 } cs

/-- A label in Punycode. -/
def encode (cs : List Char) : List Char :=
  let basic := cs.filter fun c => c.toNat < 0x80
  let output := if basic.isEmpty then [] else basic ++ ['-']
  encodeFrom cs.length 0x80 basic.length ⟨0, 72, basic.length, output⟩ (cs.map Char.toNat)

/-- Reads one delta: the sum, and the digits left. -/
def readDelta : Nat → Nat → Nat → Nat → List Char → Option (Nat × List Char)
  | _, _, _, _, [] => none
  | i, w, k, bias, c :: cs => do
    let d ← digitValue? c
    let i := i + d * w
    let t := threshold k bias
    if d < t then some (i, cs) else readDelta i (w * (36 - t)) (k + 36) bias cs

/-- Puts code points at their places; fuel bounds the digits. -/
def decodeFrom : Nat → Nat → Nat → Nat → List Char → List Char → Option (List Char)
  | 0, _, _, _, _, output => some output
  | _ + 1, _, _, _, [], output => some output
  | fuel + 1, n, i, bias, cs, output => do
    let (sum, rest) ← readDelta i 1 36 bias cs
    let count := output.length + 1
    let bias := adapt (sum - i) count (i = 0)
    let n := n + sum / count
    let place := sum % count
    if 0x110000 ≤ n || (0xD800 ≤ n && n < 0xE000) then none
    else
      decodeFrom fuel n (place + 1) bias rest (output.take place ++ [Char.ofNat n] ++ output.drop place)

/-- The label of a text in Punycode. -/
def decode? (cs : List Char) : Option (List Char) :=
  let rest := (cs.reverse.takeWhile (· ≠ '-')).reverse
  let basic := (cs.take (cs.length - rest.length)).dropLast
  if cs.any fun c => 0x80 ≤ c.toNat then none else decodeFrom (cs.length + 1) 0x80 0 72 rest basic

end BearerSession.Punycode
