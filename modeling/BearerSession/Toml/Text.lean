import BearerSession.Url.Percent

namespace BearerSession.Toml

def apostrophe : Char := Char.ofNat 0x27

/-- Whether a character may stand as itself: all but control characters, a tab apart. -/
def isPlain (c : Char) : Bool := c = '\t' || (0x20 ≤ c.toNat && c.toNat ≠ 0x7F)

/-- Puts characters in front of a text that was read. -/
def prepend (front : List Char) (r : Option (List Char × List Char)) :
    Option (List Char × List Char) :=
  r.map fun (text, rest) => (front ++ text, rest)

/-- Turns each line end of two characters into one. -/
def unifyLines : List Char → List Char
  | '\r' :: '\n' :: cs => '\n' :: unifyLines cs
  | c :: cs => c :: unifyLines cs
  | [] => []

/-- What the next character of a string in double quotes counts for. -/
inductive Stage
  /-- So many quotes stand before it. -/
  | quotes (n : Nat)
  /-- It follows a backslash. -/
  | escaped
  /-- It follows a backslash and blanks, so that the line must end. -/
  | lineGap
  /-- It follows such an end of a line, after which blanks and lines are dropped. -/
  | dropped
  /-- It is one of the digits left in the number of a character. -/
  | digits (left value : Nat)

/-- The character that a letter stands for behind a backslash. -/
def escapeOf? (c : Char) : Option Char :=
  if c = 'b' then some (Char.ofNat 8)
  else if c = 't' then some '\t'
  else if c = 'n' then some '\n'
  else if c = 'f' then some (Char.ofNat 12)
  else if c = 'r' then some '\r'
  else if c = '"' || c = '\\' then some c
  else none

def charOf? (n : Nat) : Option Char := if n.isValidChar then some (Char.ofNat n) else none

/-- The end of a string over several lines, before which so many quotes stand: three of them close
it, and up to two more belong to it. -/
def closing? (quote : Char) (n : Nat) (rest : List Char) : Option (List Char × List Char) :=
  if 3 ≤ n && n ≤ 5 then some (List.replicate (n - 3) quote, rest) else none

/-- Reads on in a string in double quotes, on one line or over several, up to what closes it. -/
def readBasic (lines : Bool) : Stage → List Char → Option (List Char × List Char)
  | .quotes n, [] => if lines then closing? '"' n [] else none
  | _, [] => none
  | .digits left value, c :: cs =>
    match Percent.digit? c, left with
    | none, _ => none
    | some d, 0 =>
      match charOf? (value * 16 + d) with
      | some c => prepend [c] (readBasic lines (.quotes 0) cs)
      | none => none
    | some d, left + 1 => readBasic lines (.digits left (value * 16 + d)) cs
  | .escaped, c :: cs =>
    if c = 'u' then readBasic lines (.digits 3 0) cs
    else if c = 'U' then readBasic lines (.digits 7 0) cs
    else if lines && (c = ' ' || c = '\t') then readBasic lines .lineGap cs
    else if lines && c = '\n' then readBasic lines .dropped cs
    else
      match escapeOf? c with
      | some c => prepend [c] (readBasic lines (.quotes 0) cs)
      | none => none
  | .lineGap, c :: cs =>
    if c = ' ' || c = '\t' then readBasic lines .lineGap cs
    else if c = '\n' then readBasic lines .dropped cs
    else none
  | .dropped, c :: cs =>
    if c = ' ' || c = '\t' || c = '\n' then readBasic lines .dropped cs
    else if c = '"' then readBasic lines (.quotes 1) cs
    else if c = '\\' then readBasic lines .escaped cs
    else if isPlain c then prepend [c] (readBasic lines (.quotes 0) cs)
    else none
  | .quotes n, c :: cs =>
    if c = '"' then (if lines then readBasic lines (.quotes (n + 1)) cs else some ([], cs))
    else if 3 ≤ n then closing? '"' n (c :: cs)
    else if c = '\\' then prepend (List.replicate n '"') (readBasic lines .escaped cs)
    else if isPlain c || (lines && c = '\n') then
      prepend (List.replicate n '"' ++ [c]) (readBasic lines (.quotes 0) cs)
    else none

/-- Reads on in a string without escapes on one line. -/
def readLiteral : List Char → Option (List Char × List Char)
  | [] => none
  | c :: cs =>
    if c = apostrophe then some ([], cs)
    else if isPlain c then prepend [c] (readLiteral cs)
    else none

/-- Reads on in a string without escapes over several lines, after so many single quotes. -/
def readMultiLiteral (n : Nat) : List Char → Option (List Char × List Char)
  | [] => closing? apostrophe n []
  | c :: cs =>
    if c = apostrophe then readMultiLiteral (n + 1) cs
    else if 3 ≤ n then closing? apostrophe n (c :: cs)
    else if isPlain c || c = '\n' then
      prepend (List.replicate n apostrophe ++ [c]) (readMultiLiteral 0 cs)
    else none

/-- Drops the end of a line at the front of a text. -/
def dropLine (cs : List Char) : List Char := if cs.head? = some '\n' then cs.drop 1 else cs

/-- Reads a string on one line from its quote on. -/
def readLineString : List Char → Option (List Char × List Char)
  | [] => none
  | c :: cs =>
    if c = '"' then readBasic false (.quotes 0) cs
    else if c = apostrophe then readLiteral cs
    else none

/-- Reads a string of any form from its first quote on. -/
def readString (cs : List Char) : Option (List Char × List Char) :=
  if cs.take 3 = ['"', '"', '"'] then readBasic true (.quotes 0) (dropLine (cs.drop 3))
  else if cs.take 3 = [apostrophe, apostrophe, apostrophe] then
    readMultiLiteral 0 (dropLine (cs.drop 3))
  else readLineString cs

/-- The length of the longest run of one character. -/
def longestRun (c : Char) (cs : List Char) : Nat :=
  (cs.foldl (fun (run, best) x =>
    let run := if x = c then run + 1 else 0
    (run, max run best)) (0, 0)).2

/-- Whether a character can only be written by an escape. -/
def needsEscape (c : Char) : Bool := !isPlain c && c ≠ '\n'

/-- Four upper-case hexadecimal digits. -/
def fourDigits (n : Nat) : List Char :=
  let ds := (Nat.toDigits 16 n).map Char.toUpper
  List.replicate (4 - ds.length) '0' ++ ds

/-- One character in double quotes, on one line or over several, after so many double quotes in a
row. Over several lines two such quotes may stand together, and line ends stand as they are. -/
def writeChar (lines : Bool) (run : Nat) (c : Char) : List Char :=
  if c = '"' then (if lines && run < 2 then [c] else ['\\', c])
  else if c = '\\' then ['\\', c]
  else if c = '\n' then (if lines then [c] else ['\\', 'n'])
  else if c = '\t' then ['\\', 't']
  else if c = '\r' then ['\\', 'r']
  else if c.toNat = 8 then ['\\', 'b']
  else if c.toNat = 12 then ['\\', 'f']
  else if needsEscape c then ['\\', 'u'] ++ fourDigits c.toNat
  else [c]

/-- Characters in double quotes, after so many double quotes in a row. -/
def writeChars (lines : Bool) (run : Nat) : List Char → List Char
  | [] => []
  | c :: cs =>
    let next := if c = '"' && lines && run < 2 then run + 1 else 0
    writeChar lines run c ++ writeChars lines next cs

/-- Writes a string: in double quotes where nothing has to be escaped, else in single quotes, else
over several lines in the same order, else with escapes. -/
def writeString (cs : List Char) : List Char :=
  let escapes := cs.any needsEscape
  let backslash := cs.contains '\\'
  let lines := cs.contains '\n'
  let doubles := longestRun '"' cs
  let singles := longestRun apostrophe cs
  let three (c : Char) : List Char := [c, c, c]
  let multi : List Char := three '"' ++ ['\n'] ++ writeChars true 0 cs ++ three '"'
  let one : List Char := ['"'] ++ writeChars false 0 cs ++ ['"']
  if !escapes && !backslash && doubles = 0 && !lines then one
  else if !escapes && singles = 0 && !lines then [apostrophe] ++ cs ++ [apostrophe]
  else if !escapes && !backslash && doubles ≤ 2 then multi
  else if !escapes && singles ≤ 2 then three apostrophe ++ ['\n'] ++ cs ++ three apostrophe
  else if lines then multi
  else one

end BearerSession.Toml
