import BearerSession.Session.Refresh

namespace BearerSession

/-- What a refresh came to, without the credential. -/
abbrev RefreshOutcome := Except RefreshError Unit

/-- A gate through which refreshes pass one by one. -/
structure Gate (m : Type → Type) where
  /-- How many refreshes have finished. The count does not wrap, as one of 64 bits would after
`2 ^ 64` of them. -/
  completed : m Nat
  /-- The outcome of the latest of them. -/
  last : m (Option RefreshOutcome)
  /-- Records the outcome of a refresh and counts it. -/
  settle : RefreshOutcome → m Unit
  /-- Waits until no other holds the gate, in the order of arrival, and takes it. -/
  acquire : m Unit
  /-- Hands the gate to whoever waits first. -/
  release : m Unit

namespace Gate

variable {m : Type → Type} [Monad m]

/-- Runs a refresh, unless one finished between arriving and taking the gate. -/
def run (gate : Gate m) (log : Log m) (refresh : m RefreshOutcome) : m RefreshOutcome := do
  let ticket ← gate.completed
  gate.acquire
  let completed ← gate.completed
  let last ← gate.last
  match if ticket < completed then last else none with
  | some outcome =>
    log.debug "Reusing outcome of concurrent refresh"
    gate.release
    return outcome
  | none =>
    let outcome ← refresh
    gate.settle outcome
    gate.release
    return outcome

end Gate

end BearerSession
