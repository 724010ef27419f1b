import BearerSession.Json.Document
import BearerSession.Json.Error

namespace BearerSession.Json

/-- Where a value comes from: a text, of which so many more levels may be entered, a value in
memory, or a part of either that was looked through before it is read. -/
inductive Origin
  | text (room : Nat)
  | memory
  | buffered
  deriving DecidableEq

/-- How deep a text may be nested. -/
def depthLimit : Nat := 127

/-- Enters an array or an object. -/
def Origin.enter : Origin → Except ReadError Origin
  | .text 0 => .error (.syntaxFault .malformed)
  | .text (room + 1) => .ok (.text room)
  | .memory => .ok .memory
  | .buffered => .ok .buffered

/-- Reads a value as a structure. The first thing wrong in the order of the document is reported,
whether it breaks the grammar or only the structure. -/
abbrev Reader (α : Type) := Origin → Node → Except ReadError α

/-- A sound part of a document, or the fault in its place. -/
def sound {α : Type} : Except Fault α → Except ReadError α
  | .ok a => .ok a
  | .error f => .error (.syntaxFault f)

/-- A value of the wrong kind. -/
def wrongType {α : Type} (found : Found) (expected : String) : Except ReadError α :=
  .error (.mismatch (.wrongType found expected))

mutual

/-- Passes over a value, asking only that it can be skipped. -/
def skip : Node → Except ReadError Unit
  | .leaf _ skipped => sound skipped
  | .array items => skipItems items
  | .object members => skipMembers members

/-- Passes over the items of an array. -/
def skipItems : Items → Except ReadError Unit
  | .close => .ok ()
  | .item v rest => do
    skip v
    skipItems rest
  | .stop _ f => .error (.syntaxFault f)

/-- Passes over the fields of an object. -/
def skipMembers : Members → Except ReadError Unit
  | .close => .ok ()
  | .member _ v rest => do
    skip v
    skipMembers rest
  | .stop f => .error (.syntaxFault f)

end

/-- A leaf as a value. -/
def Leaf.value : Leaf → Value
  | .null => .null
  | .bool b => .bool b
  | .number n => .number n
  | .string s => .string s

mutual

/-- Reads any value. Of repeated names the last counts, and names are put in order. -/
def readValue (origin : Origin) : Node → Except ReadError Value
  | .leaf kept _ => do return (← sound kept).value
  | .array items => do return .array (← readValues (← origin.enter) items)
  | .object members => do
    return .object (← readFields (← origin.enter) SortedMap.empty members).toList

/-- Reads the items of an array as any values. -/
def readValues (origin : Origin) : Items → Except ReadError (List Value)
  | .close => .ok []
  | .item v rest => do
    let v ← readValue origin v
    return v :: (← readValues origin rest)
  | .stop _ f => .error (.syntaxFault f)

/-- Reads the fields of an object as any values, over those read before. -/
def readFields (origin : Origin) (read : SortedMap Value) :
    Members → Except ReadError (SortedMap Value)
  | .close => .ok read
  | .member name v rest => do
    let name ← sound name
    let v ← readValue origin v
    readFields origin (read.insert name v) rest
  | .stop f => .error (.syntaxFault f)

end

/-- Reads a string. -/
def readStringAs (expected : String) : Reader String
  | _, .leaf kept _ => do
    match ← sound kept with
    | .string s => return s
    | l => wrongType (.ofLeaf l) expected
  | _, .array _ => wrongType .sequence expected
  | _, .object _ => wrongType .map expected

def readString : Reader String := readStringAs "a string"

/-- Reads a whole number below a bound. -/
def readBelow (bound : Nat) (expected : String) : Reader Nat
  | _, .leaf kept _ => do
    match ← sound kept with
    | .number (.whole n) =>
      if 0 ≤ n.val && n.val < bound then return n.val.toNat
      else .error (.mismatch (.wrongValue (.number (.whole n)) expected))
    | l => wrongType (.ofLeaf l) expected
  | _, .array _ => wrongType .sequence expected
  | _, .object _ => wrongType .map expected

def readUInt32 : Reader UInt32 := fun origin v =>
  (readBelow 4294967296 "u32" origin v).map UInt32.ofNat

/-- Reads null as the absence of a value. -/
def readOptional {α : Type} (read : Reader α) : Reader (Option α)
  | _, .leaf (.ok .null) _ => .ok none
  | origin, v => do return some (← read origin v)

/-- Reads the items of an array one by one. -/
def readItems {α : Type} (read : Reader α) (origin : Origin) : Items → Except ReadError (List α)
  | .close => .ok []
  | .item v rest => do
    let a ← read origin v
    return a :: (← readItems read origin rest)
  | .stop _ f => .error (.syntaxFault f)

/-- Reads an array of values of one kind. -/
def readList {α : Type} (read : Reader α) : Reader (List α)
  | _, .leaf kept _ => do wrongType (.ofLeaf (← sound kept)) "a sequence"
  | origin, .array items => do readItems read (← origin.enter) items
  | _, .object _ => wrongType .map "a sequence"

/-- Reads the fields of an object one by one, a later one over an earlier one of the same name. -/
def readEntries {α : Type} (read : Reader α) (origin : Origin) (entries : SortedMap α) :
    Members → Except ReadError (SortedMap α)
  | .close => .ok entries
  | .member name v rest => do
    let name ← sound name
    let a ← read origin v
    readEntries read origin (entries.insert name a) rest
  | .stop f => .error (.syntaxFault f)

/-- Reads an object as a map with values of one kind. -/
def readMap {α : Type} (read : Reader α) : Reader (SortedMap α)
  | _, .leaf kept _ => do wrongType (.ofLeaf (← sound kept)) "a map"
  | _, .array _ => wrongType .sequence "a map"
  | origin, .object members => do readEntries read (← origin.enter) .empty members

/-- A field of a record that is read into a draft: its name, whether it may be absent, whether
the draft has it, and how to read it into the draft. -/
structure Field (δ : Type) where
  name : String
  optional : Bool
  isSet : δ → Bool
  read : Origin → Node → δ → Except ReadError δ

/-- A field that goes to a place in the draft. -/
def Field.of {δ α : Type} (name : String) (optional : Bool) (get : δ → Option α)
    (set : α → δ → δ) (read : Reader α) : Field δ :=
  ⟨name, optional, fun draft => (get draft).isSome, fun origin v draft => do
    return set (← read origin v) draft⟩

/-- Reads the fields of an object into a draft. Unknown fields are passed over, and a known one may
stand only once. -/
def readMembers {δ : Type} (fields : List (Field δ)) (origin : Origin) (draft : δ) :
    Members → Except ReadError δ
  | .close => .ok draft
  | .member name v rest => do
    let name ← sound name
    match fields.find? (·.name = name) with
    | some field =>
      if field.isSet draft then .error (.mismatch (.duplicateField name))
      else readMembers fields origin (← field.read origin v draft) rest
    | none =>
      skip v
      readMembers fields origin draft rest
  | .stop f => .error (.syntaxFault f)

/-- Reads fields in their order from the items of an array into a draft. Gives the draft and the
items left over. -/
def readPositions {δ : Type} (shape : String) (origin : Origin) (count : Nat) (draft : δ) :
    List (Field δ) → Items → Except ReadError (δ × Items)
  | [], items => .ok (draft, items)
  | field :: fields, .item v rest => do
    readPositions shape origin (count + 1) (← field.read origin v draft) fields rest
  | _ :: _, .stop _ f => .error (.syntaxFault f)
  | field :: fields, .close =>
    if field.optional then readPositions shape origin (count + 1) draft fields .close
    else .error (.mismatch (.wrongLength count shape))

/-- The number of items. -/
def Items.length : Items → Nat
  | .item _ rest => rest.length + 1
  | _ => 0

def elements (n : Nat) : String := if n = 1 then "1 element" else toString n ++ " elements"

/-- Nothing may be left of an array of which `count` items were read. -/
def readEnd (origin : Origin) (count : Nat) (items : Items) : Except ReadError Unit :=
  match items with
  | .close => .ok ()
  | items =>
    match origin, items with
    | .text _, .stop false f => .error (.syntaxFault f)
    | .text _, _ => .error (.syntaxFault .malformed)
    | .memory, items =>
      .error (.mismatch (.wrongLength (count + items.length) "fewer elements in array"))
    | .buffered, items =>
      .error (.mismatch
        (.wrongLength (count + items.length) (elements count ++ " in sequence")))

/-- Reads a record from an array of its fields. -/
def readSequence {δ α : Type} (shape : String) (fields : List (Field δ)) (draft : δ)
    (finish : δ → Except ReadError α) (origin : Origin) (items : Items) : Except ReadError α := do
  let (draft, rest) ← readPositions (shape ++ " with " ++ elements fields.length) origin 0 draft
    fields items
  let a ← finish draft
  readEnd origin fields.length rest
  return a

/-- Reads a record from an object, or from an array of its fields in order. -/
def readRecord {δ α : Type} (shape : String) (fields : List (Field δ)) (draft : δ)
    (finish : δ → Except ReadError α) : Reader α
  | _, .leaf kept _ => do wrongType (.ofLeaf (← sound kept)) shape
  | origin, .array items => do readSequence shape fields draft finish (← origin.enter) items
  | origin, .object members => do finish (← readMembers fields (← origin.enter) draft members)

/-- A field that must have been given. -/
def required {α : Type} (name : String) : Option α → Except ReadError α
  | some a => .ok a
  | none => .error (.mismatch (.missingField name))

/-- Reads a text to its end. -/
def readDocument {α : Type} (read : Reader α) (document : Document) : Except ReadError α := do
  let a ← read (.text depthLimit) document.root
  if document.trailing then .error (.syntaxFault .malformed) else return a

def readText {α : Type} (read : Reader α) (gs : List Glyph) : Except ReadError α :=
  readDocument read (Document.parse gs)

def readMemory {α : Type} (read : Reader α) (v : Value) : Except ReadError α :=
  read .memory (Node.ofValue v)

/-- Looks through a value that will be read in another way: it must be sound. -/
def check (origin : Origin) (v : Node) : Except ReadError Unit := do
  let _ ← readValue origin v

end BearerSession.Json
