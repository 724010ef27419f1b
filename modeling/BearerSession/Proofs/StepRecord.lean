import BearerSession.Simulation.World

namespace BearerSession

open GraphQL (Transport)

/-- A call that was made, with its answer. -/
structure CallStep where
  call : Call
  answer : call.Answer

section Recording

variable {κ : Type} {m : Type → Type} [Monad m] {α : Type}

/-- Notes something about a call once it is answered. -/
def noted (note : α → κ) (x : m α) : StateT (List κ) m α := fun notes => do
  let a ← x
  return (a, notes ++ [note a])

def Store.noted (store : Store m) : Store (StateT (List CallStep) m) where
  get key := BearerSession.noted (CallStep.mk (.get key)) (store.get key)
  set key value ttl := BearerSession.noted (CallStep.mk (.set key value ttl))
    (store.set key value ttl)
  remove key := BearerSession.noted (CallStep.mk (.remove key)) (store.remove key)

def GraphQL.Transport.noted (transport : Transport m) : Transport (StateT (List CallStep) m) :=
  ⟨fun destination message => BearerSession.noted (CallStep.mk (.send destination message))
    (transport.send destination message)⟩

/-- A log of which nothing is noted. -/
def Log.aside (log : Log m) : Log (StateT (List κ) m) := ⟨fun line => StateT.lift (log.write line)⟩

/-- A gate of which nothing is noted. -/
def Gate.aside (gate : Gate m) : Gate (StateT (List κ) m) where
  completed := StateT.lift gate.completed
  last := StateT.lift gate.last
  settle outcome := StateT.lift (gate.settle outcome)
  acquire := StateT.lift gate.acquire
  release := StateT.lift gate.release

/-- A session that notes what it sends, its calls of the store, and redirections. -/
def Session.noted (s : Session m) : Session (StateT (List CallStep) m) where
  transport := s.transport.noted
  destination := s.destination
  store := s.store.noted
  log := s.log.aside
  redirect := BearerSession.noted (fun _ => ⟨.note .redirect, ()⟩) s.redirect
  keys := s.keys
  ttl := s.ttl
  gate := s.gate.map Gate.aside

end Recording

/-- A program comes to a result, and so does the same program with a record, which adds some steps
to it. -/
structure Records {κ σ α : Type} (plain : StateM σ α) (recording : StateT (List κ) (StateM σ) α)
    (s : σ) (steps : List κ) (a : α) (s' : σ) : Prop where
  plain : plain.run s = (a, s')
  recording : ∀ before, (recording.run before).run s = ((a, before ++ steps), s')

namespace Records

variable {κ σ α β : Type} {s s₁ s₂ : σ} {a : α} {b : β}

theorem pure (a : α) (s : σ) :
    Records (Pure.pure a) (Pure.pure a : StateT (List κ) (StateM σ) α) s [] a s :=
  ⟨rfl, fun before => by rw [List.append_nil]; rfl⟩

theorem bind {x : StateM σ α} {x' : StateT (List κ) (StateM σ) α} {f : α → StateM σ β}
    {f' : α → StateT (List κ) (StateM σ) β} {steps more : List κ}
    (hx : Records x x' s steps a s₁) (hf : Records (f a) (f' a) s₁ more b s₂) :
    Records (x >>= f) (x' >>= f') s (steps ++ more) b s₂ := by
  constructor
  · rw [StateT.run_bind, hx.plain]
    exact hf.plain
  · intro before
    rw [StateT.run_bind, StateT.run_bind, hx.recording before, ← List.append_assoc]
    exact hf.recording _

/-- What is done silently afterwards leaves the record as it is. -/
theorem bind_silent {x : StateM σ α} {x' : StateT (List κ) (StateM σ) α} {f : α → StateM σ β}
    {f' : α → StateT (List κ) (StateM σ) β} {steps : List κ} (hx : Records x x' s steps a s₁)
    (hf : Records (f a) (f' a) s₁ [] b s₂) : Records (x >>= f) (x' >>= f') s steps b s₂ := by
  have hboth := hx.bind hf
  rwa [List.append_nil] at hboth

theorem step (x : StateM σ α) (note : α → κ) (s : σ) :
    ∃ a s', Records x (noted note x) s [note a] a s' :=
  ⟨(x.run s).1, (x.run s).2, rfl, fun _ => rfl⟩

theorem log (log : Log (StateM σ)) (line : LogLine) (s : σ) :
    ∃ s', Records (log.write line) ((log.aside : Log (StateT (List κ) _)).write line) s [] () s' :=
  ⟨((log.write line).run s).2, rfl, fun before => by rw [List.append_nil]; rfl⟩

end Records

end BearerSession
