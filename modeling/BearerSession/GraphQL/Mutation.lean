import BearerSession.GraphQL.Envelope

namespace BearerSession.GraphQL

open Json (Value Reader ReadError Origin Node Leaf Items Members required)

/-- A problem that a mutation reports. -/
inductive Problem
  | wrongCredentials (message : String)
  | invalidRefreshToken (message : String)
  | emailAlreadyUsed (message : String)
  | invalidInput (message : String) (path : List String)
  | unknown
  deriving DecidableEq

/-- The payload of a mutation, or the problems in its place. -/
inductive MutationResult (α : Type)
  | failure (problems : List Problem)
  | success (payload : α)

namespace Problem

/-- The kinds of problems. -/
inductive Kind
  | wrongCredentials
  | invalidRefreshToken
  | emailAlreadyUsed
  | invalidInput
  | unknown
  deriving DecidableEq

/-- The kind that a type name stands for; every other name is unknown. -/
def Kind.ofName (name : String) : Kind :=
  if name = "WrongCredentialsProblem" then .wrongCredentials
  else if name = "InvalidRefreshTokenProblem" then .invalidRefreshToken
  else if name = "EmailAlreadyUsedProblem" then .emailAlreadyUsed
  else if name = "InvalidInputProblem" then .invalidInput
  else .unknown

/-- The kind that a position in the list of kinds stands for. -/
def Kind.ofIndex : Nat → Kind
  | 0 => .wrongCredentials
  | 1 => .invalidRefreshToken
  | 2 => .emailAlreadyUsed
  | 3 => .invalidInput
  | _ => .unknown

/-- Reads a kind from its name, and in a buffered value also from its position. -/
def Kind.read : Reader Kind
  | .buffered, .leaf (.ok (.number (.whole n))) skipped =>
    if 0 ≤ n.val then .ok (.ofIndex n.val.toNat)
    else (Json.readStringAs "variant identifier" .buffered
      (.leaf (.ok (.number (.whole n))) skipped)).map Kind.ofName
  | origin, v => (Json.readStringAs "variant identifier" origin v).map Kind.ofName

/-- The message of a problem of a known kind. -/
def message? : Problem → Option String
  | wrongCredentials m => some m
  | invalidRefreshToken m => some m
  | emailAlreadyUsed m => some m
  | invalidInput m _ => some m
  | unknown => none

def describe (problems : List Problem) : String :=
  String.intercalate "; " (problems.map fun p => p.message?.getD "unknown problem")

/-- A problem that is being read. -/
structure Draft where
  message : Option String := none
  path : Option (List String) := none

/-- The field that every known kind has. -/
def messageField : Json.Field Draft :=
  .of "message" false (·.message) (fun a d => { d with message := some a }) Json.readString

/-- The further field of invalid input. -/
def pathField : Json.Field Draft :=
  .of "path" true (·.path) (fun a d => { d with path := some a }) (Json.readList Json.readString)

/-- The problem of a known kind, which needs a message. -/
def Draft.finish (make : String → List String → Problem) (d : Draft) : Except ReadError Problem := do
  return make (← required "message" d.message) (d.path.getD [])

/-- Reads the content of a problem of a known kind. -/
def readContent (name : String) (fields : List (Json.Field Draft))
    (make : String → List String → Problem) : Reader Problem :=
  Json.readRecord ("struct variant Problem::" ++ name) fields {} (Draft.finish make)

/-- The type of a problem as it is named where a problem was expected. -/
def expected : String := "internally tagged enum Problem"

/-- Reads a problem of a kind from a buffered object or array of its fields. An unknown kind has no
fields that are read, but no items either. -/
def ofKind : Kind → Node → Except ReadError Problem
  | .wrongCredentials, v =>
    readContent "WrongCredentials" [messageField] (fun m _ => .wrongCredentials m) .buffered v
  | .invalidRefreshToken, v =>
    readContent "InvalidRefreshToken" [messageField] (fun m _ => .invalidRefreshToken m) .buffered v
  | .emailAlreadyUsed, v =>
    readContent "EmailAlreadyUsed" [messageField] (fun m _ => .emailAlreadyUsed m) .buffered v
  | .invalidInput, v =>
    readContent "InvalidInput" [messageField, pathField] .invalidInput .buffered v
  | .unknown, .array items => do
    Json.readEnd .buffered 0 items
    return .unknown
  | .unknown, _ => .ok .unknown

/-- The name of the field that tells the kind. -/
def tag : String := "__typename"

/-- Looks through the fields of a problem: its kind, and its other fields. -/
def readTagged (origin : Origin) (kind : Option Kind) :
    Members → Except ReadError (Option Kind × Members)
  | .close => .ok (kind, .close)
  | .member name v rest => do
    let name ← Json.sound name
    if name = tag then
      if kind.isSome then .error (.mismatch (.duplicateField tag))
      else readTagged origin (some (← Kind.read origin v)) rest
    else
      Json.check origin v
      let (kind, others) ← readTagged origin kind rest
      return (kind, .member (.ok name) v others)
  | .stop f => .error (.syntaxFault f)

/-- Looks through the items of a problem after its kind. -/
def checkItems (origin : Origin) (items : Items) : Except ReadError Unit := do
  let _ ← Json.readValues origin items

/-- Reads a problem from an object with its kind among its fields, or from an array with its kind
in front. -/
def read : Reader Problem
  | _, .leaf kept _ => do Json.wrongType (.ofLeaf (← Json.sound kept)) expected
  | origin, .object members => do
    let (kind, others) ← readTagged (← origin.enter) none members
    ofKind (← required tag kind) (.object others)
  | origin, .array items => do
    let origin ← origin.enter
    match items with
    | .close => .error (.mismatch (.missingField tag))
    | .stop _ f => .error (.syntaxFault f)
    | .item v rest =>
      let kind ← Kind.read origin v
      checkItems origin rest
      ofKind kind (.array rest)

end Problem

namespace MutationResult

variable {α : Type}

/-- The payload, or the problems. -/
def split : MutationResult α → Except (List Problem) α
  | success payload => .ok payload
  | failure problems => .error problems

/-- A failure that is being read. -/
structure Draft where
  problems : Option (List Problem) := none

def fields : List (Json.Field Draft) :=
  [.of "problems" false (·.problems) (fun a _ => ⟨some a⟩) (Json.readList Problem.read)]

def Draft.finish (d : Draft) : Except ReadError (List Problem) := required "problems" d.problems

/-- Reads the problems of a failure, which is an object. -/
def readProblems : Node → Except ReadError (List Problem)
  | .object members => do Draft.finish (← Json.readMembers fields .buffered {} members)
  | _ => .error (.mismatch (.noVariant "MutationResult"))

/-- Reads a result: a sound value that is a failure or else a payload. -/
def read (payload : Reader α) : Reader (MutationResult α) := fun origin v => do
  Json.check origin v
  match readProblems v with
  | .ok problems => return failure problems
  | .error _ =>
    match payload .buffered v with
    | .ok a => return success a
    | .error _ => .error (.mismatch (.noVariant "MutationResult"))

end MutationResult

end BearerSession.GraphQL
