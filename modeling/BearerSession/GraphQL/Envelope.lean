import BearerSession.Json.Reader
import BearerSession.Json.Printer

namespace BearerSession.GraphQL

open Json (Value Reader ReadError required)

/-- A place in a query document. -/
structure ErrorLocation where
  line : UInt32
  column : UInt32
  deriving DecidableEq

/-- A step on the way to a part of the data: the name of a field or the index of an item. -/
inductive PathSegment
  | field (name : String)
  | index (i : UInt64)
  deriving DecidableEq

/-- An error that an endpoint reports. -/
structure ReportedError where
  message : String
  locations : List ErrorLocation
  path : List PathSegment
  extensions : Option Value

/-- An endpoint's answer. -/
structure Envelope where
  data : Option Value
  errors : Option (List ReportedError)

namespace ErrorLocation

def encode (l : ErrorLocation) : Value :=
  .object [("line", .whole (.ofUInt32 l.line)), ("column", .whole (.ofUInt32 l.column))]

/-- A location that is being read. -/
structure Draft where
  line : Option UInt32 := none
  column : Option UInt32 := none

/-- The fields of a location. -/
def fields : List (Json.Field Draft) := [
  .of "line" false (·.line) (fun a d => ⟨some a, d.column⟩) Json.readUInt32,
  .of "column" false (·.column) (fun a d => ⟨d.line, some a⟩) Json.readUInt32]

def Draft.finish (d : Draft) : Except ReadError ErrorLocation := do
  return ⟨← required "line" d.line, ← required "column" d.column⟩

def read : Reader ErrorLocation := Json.readRecord "struct ErrorLocation" fields ⟨none, none⟩ Draft.finish

end ErrorLocation

namespace PathSegment

/-- A segment as a value. -/
def encode : PathSegment → Value
  | field name => .string name
  | index i => .whole (.ofUInt64 i)

/-- The segment that a value stands for. -/
def ofValue? : Value → Option PathSegment
  | .string s => some (.field s)
  | .number (.whole n) => if 0 ≤ n.val then some (.index (.ofNat n.val.toNat)) else none
  | _ => none

/-- Reads a segment: a sound value, and then a name or an index. -/
def read : Reader PathSegment := fun origin v => do
  match ofValue? (← Json.readValue origin v) with
  | some segment => return segment
  | none => .error (.mismatch (.noVariant "PathSegment"))

end PathSegment

namespace ReportedError

def ofMessage (message : String) : ReportedError := ⟨message, [], [], none⟩

def atPath (e : ReportedError) (path : List PathSegment) : ReportedError := { e with path }

/-- An error as a value; absent extensions are left out. -/
def encode (e : ReportedError) : Value :=
  .object ([("message", .string e.message),
    ("locations", .array (e.locations.map ErrorLocation.encode)),
    ("path", .array (e.path.map PathSegment.encode))]
    ++ (e.extensions.map fun v => ("extensions", v)).toList)

/-- An error that is being read. -/
structure Draft where
  message : Option String := none
  locations : Option (List ErrorLocation) := none
  path : Option (List PathSegment) := none
  extensions : Option (Option Value) := none

/-- The fields of an error. -/
def fields : List (Json.Field Draft) := [
  .of "message" false (·.message) (fun a d => { d with message := some a }) Json.readString,
  .of "locations" true (·.locations) (fun a d => { d with locations := some a })
    (Json.readList ErrorLocation.read),
  .of "path" true (·.path) (fun a d => { d with path := some a }) (Json.readList PathSegment.read),
  .of "extensions" true (·.extensions) (fun a d => { d with extensions := some a })
    (Json.readOptional Json.readValue)]

def Draft.finish (d : Draft) : Except ReadError ReportedError := do
  return ⟨← required "message" d.message, d.locations.getD [], d.path.getD [], d.extensions.join⟩

def read : Reader ReportedError := Json.readRecord "struct GraphQLError" fields {} Draft.finish

end ReportedError

namespace Envelope

def empty : Envelope := ⟨none, none⟩

def ofData (data : Value) : Envelope := ⟨some data, none⟩

def ofErrors (errors : List ReportedError) : Envelope := ⟨none, some errors⟩

/-- The data of an answer, or its errors if it lists any. -/
def split (e : Envelope) : Except (List ReportedError) (Option Value) :=
  match e.errors with
  | some (error :: errors) => .error (error :: errors)
  | _ => .ok e.data

/-- An answer as a value; what is absent is left out. -/
def encode (e : Envelope) : Value :=
  .object ((e.data.map fun v => ("data", v)).toList
    ++ (e.errors.map fun es => ("errors", .array (es.map ReportedError.encode))).toList)

/-- An answer that is being read. -/
structure Draft where
  data : Option (Option Value) := none
  errors : Option (Option (List ReportedError)) := none

/-- The fields of an answer. -/
def fields : List (Json.Field Draft) := [
  .of "data" true (·.data) (fun a d => { d with data := some a }) (Json.readOptional Json.readValue),
  .of "errors" true (·.errors) (fun a d => { d with errors := some a })
    (Json.readOptional (Json.readList ReportedError.read))]

def Draft.finish (d : Draft) : Except ReadError Envelope := .ok ⟨d.data.join, d.errors.join⟩

def read : Reader Envelope := Json.readRecord "struct Envelope" fields {} Draft.finish

end Envelope

end BearerSession.GraphQL
