import BearerSession.Credential
import BearerSession.Store.Error
import BearerSession.Time.Timestamp

namespace BearerSession

open Json (Value Reader ReadError required)

/-- The time to live of a credential that is written without one. -/
def defaultTtlDays : Int := 7

/-- A time to live of a number of days between one and the longest allowed. -/
def ttlOfDays (days : Int) : Except StoreError Span :=
  if h : 1 ≤ days ∧ days ≤ maxTtlDays then
    .ok ⟨days * 86400000000000, by omega, by have := h.2; unfold maxTtlDays at this; omega⟩
  else .error (.invalidTtl days)

/-- Seven days. -/
def defaultTtl : Span := ⟨604800000000000, by decide, by decide⟩

/-- A value and the time from which it counts as absent. -/
structure StoredEntry where
  value : Secret
  expiresAt : Instant
  deriving DecidableEq

namespace StoredEntry

/-- The entry for a value that is written at some time to live for some span. -/
def stamp (value : Secret) (now : Instant) (ttl : Span) : StoredEntry := ⟨value, now.plus ttl⟩

/-- Whether an entry still counts at some time. -/
def isLive (e : StoredEntry) (now : Instant) : Bool := now < e.expiresAt

def encode (e : StoredEntry) : Value :=
  .object [("value", e.value.encode), ("expires_at", .string e.expiresAt.text)]

/-- Reads a point in time. -/
def readInstant : Reader Instant := fun origin v => do
  let s ← Json.readStringAs "an RFC 3339 formatted date and time string" origin v
  match Instant.read? s.toList with
  | some t => return t
  | none => .error (.mismatch .timestamp)

/-- An entry that is being read. -/
structure Draft where
  value : Option Secret := none
  expiresAt : Option Instant := none

/-- The fields of an entry. -/
def fields : List (Json.Field Draft) := [
  .of "value" false (·.value) (fun a d => { d with value := some a }) Secret.read,
  .of "expires_at" false (·.expiresAt) (fun a d => { d with expiresAt := some a }) readInstant]

def Draft.finish (d : Draft) : Except ReadError StoredEntry := do
  return ⟨← required "value" d.value, ← required "expires_at" d.expiresAt⟩

def read : Reader StoredEntry := Json.readRecord "struct StoredEntry" fields {} Draft.finish

end StoredEntry

/-- The value of an entry that still counts. -/
def liveValue (now : Instant) (e : Option StoredEntry) : Option Secret :=
  (e.filter fun e => e.isLive now).map (·.value)

end BearerSession
