import BearerSession.Json.Error

namespace BearerSession

/-- Why the file system refuses an operation. -/
inductive IoError
  | notFound
  | alreadyExists
  | isADirectory
  | notADirectory
  | directoryNotEmpty
  | invalidData
  deriving DecidableEq, Repr

namespace IoError

/-- The name of a kind of refusal. -/
def name : IoError → String
  | notFound => "NotFound"
  | alreadyExists => "AlreadyExists"
  | isADirectory => "IsADirectory"
  | notADirectory => "NotADirectory"
  | directoryNotEmpty => "DirectoryNotEmpty"
  | invalidData => "InvalidData"

def text (e : IoError) : String := "<io " ++ e.name ++ ">"

/-- A refusal in the words of the system. -/
def systemText : IoError → String
  | notFound => "No such file or directory (os error 2)"
  | alreadyExists => "File exists (os error 17)"
  | isADirectory => "Is a directory (os error 21)"
  | notADirectory => "Not a directory (os error 20)"
  | directoryNotEmpty => "Directory not empty (os error 39)"
  | invalidData => "stream did not contain valid UTF-8"

end IoError

/-- The longest time to live in days. -/
def maxTtlDays : Int := 3650

/-- A refused call of a credential store. -/
inductive StoreError
  | backend (message : String)
  | io (path : String) (error : IoError)
  | unreadable (error : Json.ReadError)
  | invalidTtl (days : Int)
  | invalidValue (key : String)
  | keyringUnavailable (message : String)
  deriving DecidableEq

namespace StoreError

/-- The words for a refusal, those of the file system being given. -/
def messageWith (io : IoError → String) : StoreError → String
  | backend m => "backend error: " ++ m
  | .io path e => "I/O error on " ++ Quoted.path path ++ ": " ++ io e
  | unreadable e => "serialization error: " ++ e.message
  | invalidTtl days =>
    "credential TTL of " ++ toString days ++ " days is out of range (1..=" ++ toString maxTtlDays
      ++ ")"
  | invalidValue key =>
    "value for " ++ Quoted.text key ++ " contains characters the backend cannot store"
  | keyringUnavailable m => "keyring not available: " ++ m

/-- The words for the failures behind a refusal, nearest first. -/
def sourcesWith (io : IoError → String) : StoreError → List String
  | .io _ e => [io e]
  | unreadable e => [e.message]
  | _ => []

def message : StoreError → String := messageWith IoError.text

/-- The words for the failures behind a refusal, nearest first. -/
def sources : StoreError → List String := sourcesWith IoError.text

end StoreError

end BearerSession
