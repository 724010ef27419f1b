import BearerSession.Toml.Table

namespace BearerSession.Toml

/-- How deep values may be nested, and how many parts a key may have. -/
def depthLimit : Nat := 79

def skipBlanks (cs : List Char) : List Char := cs.dropWhile fun c => c = ' ' || c = '\t'

/-- A text without blanks and a comment at its front. -/
def skipComment (cs : List Char) : List Char :=
  let cs := skipBlanks cs
  if cs.head? = some '#' then cs.dropWhile isPlain else cs

/-- A text without blanks, comments and line ends at its front; fuel bounds the number of lines. -/
def skipLines : Nat → List Char → List Char
  | 0, cs => cs
  | fuel + 1, cs =>
    match skipComment cs with
    | '\n' :: cs => skipLines fuel cs
    | cs => cs

/-- Whether a character may stand in a key without quotes. -/
def isKeyChar (c : Char) : Bool := c.isAlphanum || c = '-' || c = '_'

/-- Reads one part of a key. -/
def readKeyPart (cs : List Char) : Option (String × List Char) :=
  let name := cs.takeWhile isKeyChar
  if name.isEmpty then (readLineString cs).map fun (name, rest) => (String.ofList name, rest)
  else some (String.ofList name, cs.drop name.length)

/-- Reads a key of at most so many parts with dots between them, and blanks around each. -/
def readKey : Nat → List Char → Option (List String × List Char)
  | 0, _ => none
  | room + 1, cs => do
    let (name, cs) ← readKeyPart (skipBlanks cs)
    match skipBlanks cs with
    | '.' :: cs => do
      let (names, cs) ← readKey room cs
      return (name :: names, cs)
    | cs => return ([name], cs)

def assignPath (path : List String) (v : Value) (t : Table) : Option Table := do
  t.assign (← path.getLast?) v path.dropLast

mutual

/-- Reads a value. Fuel bounds the values and keys in it, and `room` how deep they are nested. -/
def readValue (fuel room : Nat) (cs : List Char) : Option (Value × List Char) :=
  match fuel with
  | 0 => none
  | fuel + 1 =>
    match cs with
    | [] => none
    | c :: rest =>
      if c = '"' || c = apostrophe then
        (readString cs).map fun (s, rest) => (.text (String.ofList s), rest)
      else if c = '[' then
        match room with
        | 0 => none
        | room + 1 => (readItems fuel room rest).map fun rest => (.other, rest)
      else if c.toNat = 0x7B then
        match room with
        | 0 => none
        | room + 1 =>
          match skipBlanks rest with
          | [] => none
          | c :: cs =>
            if c.toNat = 0x7D then some (.other, cs)
            else (readPairs fuel room [] (c :: cs)).map fun rest => (.other, rest)
      else Scalar.read cs

/-- Passes the items of an array to its end. -/
def readItems (fuel room : Nat) (cs : List Char) : Option (List Char) :=
  match fuel with
  | 0 => none
  | fuel + 1 =>
    match skipLines cs.length cs with
    | ']' :: rest => some rest
    | cs => do
      let (_, cs) ← readValue fuel room cs
      match skipLines cs.length cs with
      | ',' :: cs => readItems fuel room cs
      | ']' :: rest => some rest
      | _ => none

/-- Passes the keys and values of an inline table to its end, which fill a table. -/
def readPairs (fuel room : Nat) (t : Table) (cs : List Char) : Option (List Char) :=
  match fuel with
  | 0 => none
  | fuel + 1 => do
    let (path, cs) ← readKey depthLimit cs
    match cs with
    | '=' :: cs => do
      let (v, cs) ← readValue fuel room (skipBlanks cs)
      let t ← assignPath path v t
      match skipBlanks cs with
      | [] => none
      | c :: cs =>
        if c = ',' then readPairs fuel room t cs
        else if c.toNat = 0x7D then some cs
        else none
    | _ => none

end

/-- Passes the end of a line, before which only a comment may stand. -/
def endLine (cs : List Char) : Option (List Char) :=
  match skipComment cs with
  | [] => some []
  | '\n' :: cs => some cs
  | _ => none

/-- Reads a header from behind its brackets to the end of its line. -/
def readHeader (listed : Bool) (cs : List Char) : Option (List String × List Char) := do
  let (path, cs) ← readKey depthLimit cs
  match listed, cs with
  | false, ']' :: cs => return (path, ← endLine cs)
  | true, ']' :: ']' :: cs => return (path, ← endLine cs)
  | _, _ => none

/-- Reads the lines of a document, the table of the latest header being given; fuel bounds their
number. -/
def readLines : Nat → List String → Table → List Char → Option Table
  | 0, _, t, cs => if cs.isEmpty then some t else none
  | fuel + 1, current, t, cs =>
    match skipComment cs with
    | [] => some t
    | '\n' :: cs => readLines fuel current t cs
    | '[' :: '[' :: cs => do
      let (path, cs) ← readHeader true cs
      readLines fuel path (← t.declare true path) cs
    | '[' :: cs => do
      let (path, cs) ← readHeader false cs
      readLines fuel path (← t.declare false path) cs
    | cs => do
      let (path, cs) ← readKey depthLimit cs
      match cs with
      | '=' :: cs => do
        let (v, cs) ← readValue (cs.length + 1) depthLimit (skipBlanks cs)
        readLines fuel current (← t.modify (assignPath path v) current) (← endLine cs)
      | _ => none

/-- Reads a document. A byte order mark in front of it is passed over. -/
def read? (s : String) : Option Table :=
  let cs := unifyLines s.toList
  let cs := if cs.head? = some (Char.ofNat 0xFEFF) then cs.drop 1 else cs
  readLines (cs.length + 1) [] [] cs

end BearerSession.Toml
