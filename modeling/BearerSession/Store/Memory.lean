import BearerSession.Store.Entry

namespace BearerSession

/-- The entries of a store, dead ones included. -/
structure MemoryStore where
  entries : SortedMap StoredEntry := .empty
  deriving DecidableEq

namespace MemoryStore

/-- A store that holds values from some time on for the default span. -/
def ofValues (values : List (String × String)) (now : Instant) : MemoryStore :=
  ⟨SortedMap.ofList (values.map fun (key, value) => (key, .stamp ⟨value⟩ now defaultTtl))⟩

def get (s : MemoryStore) (now : Instant) (key : String) : Option Secret :=
  liveValue now (s.entries.get? key)

/-- Writes a value. -/
def set (s : MemoryStore) (now : Instant) (key : String) (value : Secret) (ttl : Span) :
    MemoryStore :=
  ⟨s.entries.insert key (.stamp value now ttl)⟩

def remove (s : MemoryStore) (key : String) : MemoryStore := ⟨s.entries.erase key⟩

def size (s : MemoryStore) : Nat := s.entries.size

def debug (s : MemoryStore) : String :=
  "MemoryStore \x7b keys_count: " ++ toString s.size ++ " \x7d"

end MemoryStore

end BearerSession
