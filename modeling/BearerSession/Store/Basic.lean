import BearerSession.Store.Entry

namespace BearerSession

/-- A credential store. A write replaces whatever the key held, and there is no promise across
keys. -/
structure Store (m : Type → Type) where
  /-- The value at a key, if one lives. -/
  get : String → m (Except StoreError (Option Secret))
  /-- Writes a value to live for some span. -/
  set : String → Secret → Span → m (Except StoreError Unit)
  /-- Forgets a key, whether it holds a value or not. -/
  remove : String → m (Except StoreError Unit)

/-- How much a line of the log matters. -/
inductive LogLevel
  | debug
  | info
  | warn
  deriving DecidableEq, Repr

/-- A line of the log. -/
structure LogLine where
  level : LogLevel
  message : String
  deriving DecidableEq

/-- The log. -/
structure Log (m : Type → Type) where
  write : LogLine → m Unit

namespace Log

variable {m : Type → Type}

/-- Writes a line for those who look closely. -/
def debug (log : Log m) (message : String) : m Unit := log.write ⟨.debug, message⟩

def info (log : Log m) (message : String) : m Unit := log.write ⟨.info, message⟩

def warn (log : Log m) (message : String) : m Unit := log.write ⟨.warn, message⟩

end Log

namespace Store

variable {m : Type → Type} [Monad m]

def exists? (store : Store m) (key : String) : m (Except StoreError Bool) := do
  return (← store.get key).map Option.isSome

/-- Both credentials as they are stored. -/
def loadPair (store : Store m) (keys : CredentialKeys) :
    m (Except StoreError (Option Secret × Option Secret)) := do
  match ← store.get keys.access with
  | .error e => return .error e
  | .ok access =>
    match ← store.get keys.refresh with
    | .error e => return .error e
    | .ok refresh => return .ok (access, refresh)

def isAuthenticated (store : Store m) (keys : CredentialKeys) : m (Except StoreError Bool) := do
  return (← store.loadPair keys).map fun (access, refresh) => access.isSome || refresh.isSome

/-- Writes both credentials, the access credential first. -/
def storePair (store : Store m) (keys : CredentialKeys) (pair : TokenPair) (ttl : Span) :
    m (Except StoreError Unit) := do
  match ← store.set keys.access pair.access ttl with
  | .error e => return .error e
  | .ok () => store.set keys.refresh pair.refresh ttl

end Store

end BearerSession
