import BearerSession.Json.Token

namespace BearerSession.Json

mutual

/-- A value of a text, or the fault that stands where a value was expected. -/
inductive Node
  | leaf (kept : Except Fault Leaf) (skipped : Except Fault Unit)
  | array (items : Items)
  | object (members : Members)

/-- The items of an array up to its end or to a fault, which may stand behind a comma. -/
inductive Items
  | close
  | item (value : Node) (rest : Items)
  | stop (comma : Bool) (fault : Fault)

/-- The fields of an object in their order and with repetitions, up to its end or to a fault. -/
inductive Members
  | close
  | member (name : Except Fault String) (value : Node) (rest : Members)
  | stop (fault : Fault)

end

instance : Inhabited Node := ⟨.leaf (.ok .null) (.ok ())⟩

/-- A text read as one value, and whether anything follows the value. A reader that stops before a
fault never meets it. -/
structure Document where
  root : Node
  trailing : Bool

namespace Node

def fault (f : Fault) : Node := .leaf (.error f) (.error f)

def sound (l : Leaf) : Node := .leaf (.ok l) (.ok ())

end Node

/-- An array under construction, its items last to first, or an object under construction, with
the name whose value is being read. -/
inductive Frame
  | array (items : List Node)
  | object (fields : List (Except Fault String × Node)) (name : Except Fault String)

def Items.prepend (items : List Node) (rest : Items) : Items :=
  items.foldl (fun rest v => .item v rest) rest

/-- Fields in front of the rest of an object. -/
def Members.prepend (fields : List (Except Fault String × Node)) (rest : Members) : Members :=
  fields.foldl (fun rest (name, v) => .member name v rest) rest

/-- Closes all that is under construction around a node that ends in a fault. -/
def wrap : List Frame → Node → Node
  | [], v => v
  | .array items :: frames, v => wrap frames (.array (Items.prepend (v :: items) .close))
  | .object fields name :: frames, v =>
    wrap frames (.object (Members.prepend ((name, v) :: fields) .close))

/-- What a text goes on with. -/
inductive Expect
  /-- A value, or the end of the array that was just opened. -/
  | firstItem (frames : List Frame)
  /-- A value of an array, behind a comma. -/
  | nextItem (items : List Node) (frames : List Frame)
  /-- A name, or the end of the object that was just opened. -/
  | firstName (frames : List Frame)
  /-- A name, behind a comma. -/
  | nextName (fields : List (Except Fault String × Node)) (frames : List Frame)
  /-- The colon behind a name. -/
  | colon (fields : List (Except Fault String × Node)) (name : Except Fault String)
    (frames : List Frame)
  /-- A value, at the top or behind a colon. -/
  | value (frames : List Frame)
  /-- What follows a value. -/
  | after (v : Node) (frames : List Frame)

namespace Expect

/-- The document of a text that breaks off here. -/
def abort (f : Fault) : Expect → Document
  | firstItem frames => ⟨wrap frames (.array (.stop false f)), false⟩
  | nextItem items frames => ⟨wrap frames (.array (Items.prepend items (.stop true f))), false⟩
  | firstName frames => ⟨wrap frames (.object (.stop f)), false⟩
  | nextName fields frames => ⟨wrap frames (.object (Members.prepend fields (.stop f))), false⟩
  | colon fields name frames =>
    ⟨wrap frames (.object (Members.prepend ((name, .fault f) :: fields) .close)), false⟩
  | value frames => ⟨wrap frames (.fault f), false⟩
  | after v [] => ⟨v, f = .malformed⟩
  | after v (.array items :: frames) =>
    ⟨wrap frames (.array (Items.prepend (v :: items) (.stop false f))), false⟩
  | after v (.object fields name :: frames) =>
    ⟨wrap frames (.object (Members.prepend ((name, v) :: fields) (.stop f))), false⟩

end Expect

/-- Goes on behind a leaf, or ends at it where it cannot be skipped. -/
def afterLeaf (kept : Except Fault Leaf) (skipped : Except Fault Unit) (frames : List Frame) :
    Expect ⊕ Document :=
  match skipped with
  | .ok () => .inl (.after (.leaf kept (.ok ())) frames)
  | .error f => .inr ⟨wrap frames (.leaf kept (.error f)), false⟩

/-- Takes a token where a value is expected. -/
def takeValue (t : Token) (frames : List Frame) : Option (Expect ⊕ Document) :=
  match t with
  | .openArray => some (.inl (.firstItem frames))
  | .openObject => some (.inl (.firstName frames))
  | .string kept skipped => some (afterLeaf (kept.map Leaf.string) skipped frames)
  | .plain kept skipped => some (afterLeaf kept skipped frames)
  | _ => none

/-- Takes a token where a name is expected. -/
def takeName (t : Token) (fields : List (Except Fault String × Node)) (frames : List Frame) :
    Option (Expect ⊕ Document) :=
  match t with
  | .string kept (.ok ()) => some (.inl (.colon fields kept frames))
  | .string kept (.error f) =>
    some (.inr ⟨wrap frames (.object (Members.prepend ((kept, .fault f) :: fields) .close)), false⟩)
  | _ => none

/-- Takes one token; `none` where the token breaks the grammar. -/
def Expect.step (e : Expect) (t : Token) : Option (Expect ⊕ Document) :=
  match e with
  | .firstItem frames =>
    match t with
    | .closeArray => some (.inl (.after (.array .close) frames))
    | t => takeValue t (.array [] :: frames)
  | .nextItem items frames => takeValue t (.array items :: frames)
  | .firstName frames =>
    match t with
    | .closeObject => some (.inl (.after (.object .close) frames))
    | t => takeName t [] frames
  | .nextName fields frames => takeName t fields frames
  | .colon fields name frames =>
    match t with
    | .colon => some (.inl (.value (.object fields name :: frames)))
    | _ => none
  | .value frames => takeValue t frames
  | .after _ [] => none
  | .after v (.array items :: frames) =>
    match t with
    | .comma => some (.inl (.nextItem (v :: items) frames))
    | .closeArray => some (.inl (.after (.array (Items.prepend (v :: items) .close)) frames))
    | _ => none
  | .after v (.object fields name :: frames) =>
    match t with
    | .comma => some (.inl (.nextName ((name, v) :: fields) frames))
    | .closeObject =>
      some (.inl (.after (.object (Members.prepend ((name, v) :: fields) .close)) frames))
    | _ => none

/-- Takes tokens up to the end of the text or to its first fault. -/
def Expect.run (e : Expect) : List Token → Document
  | [] => e.abort .truncated
  | t :: ts =>
    match e.step t with
    | none => e.abort .malformed
    | some (.inl e) => e.run ts
    | some (.inr document) => document

def Document.parse (gs : List Glyph) : Document := (Expect.value []).run (tokens gs)

namespace Node

mutual

/-- A value in memory as a tree. -/
def ofValue : Value → Node
  | .null => .sound .null
  | .bool b => .sound (.bool b)
  | .number n => .sound (.number n)
  | .string s => .sound (.string s)
  | .array vs => .array (itemsOfValues vs)
  | .object fields => .object (membersOfFields fields)

/-- Values as the items of an array. -/
def itemsOfValues : List Value → Items
  | [] => .close
  | v :: vs => .item (ofValue v) (itemsOfValues vs)

/-- Fields in memory as the fields of an object. -/
def membersOfFields : List (String × Value) → Members
  | [] => .close
  | (name, v) :: fields => .member (.ok name) (ofValue v) (membersOfFields fields)

end

end Node

end BearerSession.Json
