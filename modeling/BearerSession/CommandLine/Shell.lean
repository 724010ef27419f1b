import BearerSession.Session
import BearerSession.Store.Selection

namespace BearerSession.CommandLine

/-- The state of a run. -/
structure Shell where
  clock : Instant
  store : AnyStore
  machine : Machine
  output : String := ""
  complaints : String := ""

abbrev Work := StateM Shell

namespace Work

/-- A vault that keeps nothing from one call to the next. -/
def forget (machine : Machine) : Machine := { machine with vault := {} }

/-- The store of the run. -/
def store : Store Work where
  get key := do
    let s ← get
    let (result, store, machine, _) := s.store.get s.clock key s.machine
    set { s with store, machine := forget machine }
    return result
  set key value ttl := do
    let s ← get
    let (result, store, machine) := s.store.set s.clock key value ttl s.machine
    MonadStateOf.set { s with store, machine := forget machine }
    return result
  remove key := do
    let s ← get
    let (result, store, machine) := s.store.remove s.clock key s.machine
    set { s with store, machine := forget machine }
    return result

/-- The log of the run, which is not kept. -/
def log : Log Work := ⟨fun _ => pure ()⟩

def print (line : String) : Work Unit :=
  modify fun s => { s with output := s.output ++ line ++ "\n" }

def complain (line : String) : Work Unit :=
  modify fun s => { s with complaints := s.complaints ++ line ++ "\n" }

/-- An endpoint that cannot be reached. -/
def unreachable : GraphQL.Transport Work := ⟨fun _ _ => pure (.error .network)⟩

end Work

end BearerSession.CommandLine
