import BearerSession.Proofs.WorldCalls

namespace BearerSession

open GraphQL (Envelope Outgoing TransportError)

/-- An endpoint of any behaviour. It answers a message in the world where the message was just
recorded, and lets the sender wait for some passes. -/
structure Endpoint where
  outcome : World → Except TransportError Envelope
  delay : World → Nat
  left : World → List Reply

/-- The endpoint that gives the prepared replies. -/
def Endpoint.scripted : Endpoint :=
  ⟨fun w => w.reply.1.answer, fun w => w.reply.1.passes, fun w => w.reply.2.replies⟩

/-- Answers a call of a task, messages by the endpoint. -/
def Endpoint.react (e : Endpoint) (task : Nat) (c : Call) (w : World) : Reaction c.Answer × World :=
  match c with
  | .send destination message =>
    let w := w.note (.send destination message)
    (.later (e.delay w) (e.outcome w), { w with replies := e.left w })
  | c => w.react task c

/-- The world as it is, is the one with prepared replies. -/
theorem scripted_react (task : Nat) (c : Call) (w : World) :
    Endpoint.scripted.react task c w = w.react task c := by
  cases c with
  | send destination message =>
    simp only [Endpoint.react, Endpoint.scripted, World.react, World.reply]
    cases (w.note (.send destination message)).replies <;> rfl
  | _ => rfl

/-- What a reaction answers, sooner or later. -/
def Reaction.answer {α : Type} : Reaction α → α
  | now a => a
  | later _ a => a
  | queued a => a

/-- A call that a task made, and its answer. -/
structure Moment where
  task : Nat
  call : Call
  answer : call.Answer

/-- A world, and the calls that led to it, the latest first. -/
structure Scene where
  world : World
  past : List Moment

/-- A world at rest in which no time passes. -/
def stillWorld (m : MemoryStore) (now : Instant) : World :=
  { clock := fun _ => now, store := .memory m, machine := ⟨Disk.blank [], {}⟩ }

/-- A world whose store holds both credentials. -/
def heldWorld : World :=
  stillWorld (.ofValues [("accessToken", "a"), ("refreshToken", "r")] .least) .least

def jsonReply (v : Json.Value) : Reply := ⟨200, v.compact.map some, 0⟩

/-- A world whose endpoint refuses a credential, grants another and then answers. -/
def renewingWorld (m : MemoryStore) : World :=
  { stillWorld m .least with
    replies := [
      jsonReply (.object [("errors", .array [.object [("message", .string "Invalid token")]])]),
      jsonReply (.object [("data", .object
        [("refreshToken", .object [("accessToken", .string "fresh")])])]),
      jsonReply (.object [("data", .null)])] }

/-- Surroundings that remember the calls made in them. -/
def Endpoint.scenes (e : Endpoint) : Surroundings Call Call.Answer Scene where
  react task c s :=
    let (r, w) := e.react task c s.world
    (r, ⟨w, ⟨task, c, r.answer⟩ :: s.past⟩)
  hasTurn task s := s.world.gate.lock.holder = some task

namespace Program

variable {Ask : Type} {Answer : Ask → Type} {α β σ : Type}

/-- Runs a program that has no rivals: waits do not matter to it. -/
def alone (s : Surroundings Ask Answer σ) (id : Nat) : Program Ask Answer α → σ → α × σ
  | done a, w => (a, w)
  | ask c next, w => (next (s.react id c w).1.answer).alone s id (s.react id c w).2

@[simp] theorem alone_done (s : Surroundings Ask Answer σ) (id : Nat) (a : α) (w : σ) :
    (done a : Program Ask Answer α).alone s id w = (a, w) := rfl

@[simp] theorem alone_ask (s : Surroundings Ask Answer σ) (id : Nat) (c : Ask)
    (next : Answer c → Program Ask Answer α) (w : σ) :
    (ask c next).alone s id w =
      (next (s.react id c w).1.answer).alone s id (s.react id c w).2 := rfl

theorem alone_bind (s : Surroundings Ask Answer σ) (id : Nat) (p : Program Ask Answer α)
    (f : α → Program Ask Answer β) (w : σ) :
    (p >>= f).alone s id w = (f (p.alone s id w).1).alone s id (p.alone s id w).2 := by
  induction p generalizing w with
  | done a => rfl
  | ask c next ih =>
    rw [ask_bind, alone_ask, alone_ask]
    exact ih _ _

/-- One known step of a program that runs alone. -/
theorem alone_bind_of {s : Surroundings Ask Answer σ} {id : Nat} {p : Program Ask Answer α}
    {w w' : σ} {a : α} (h : p.alone s id w = (a, w')) (f : α → Program Ask Answer β) :
    (p >>= f).alone s id w = (f a).alone s id w' := by
  rw [alone_bind, h]

theorem alone_map_of {s : Surroundings Ask Answer σ} {id : Nat} {p : Program Ask Answer α}
    {w w' : σ} {a : α} (h : p.alone s id w = (a, w')) (f : α → β) :
    (p >>= fun a => pure (f a)).alone s id w = (f a, w') := alone_bind_of h _

end Program

namespace Task

variable {Ask : Type} {Answer : Ask → Type} {α σ : Type}

/-- What a task has yet to do. -/
def rest : Task Ask Answer α → Program Ask Answer α
  | ready p => p
  | asleep _ p => p
  | waiting p => p
  | finished a => .done a

theorem advance_alone (s : Surroundings Ask Answer σ) (id : Nat) (p : Program Ask Answer α) (w : σ) :
    (advance s id p w).1.rest.alone s id (advance s id p w).2 = p.alone s id w := by
  induction p generalizing w with
  | done a => rfl
  | ask c next ih =>
    rw [Program.alone_ask]
    unfold advance
    cases hr : s.react id c w with
    | mk r w' =>
      cases r with
      | now a => exact ih a w'
      | queued a => rfl
      | later passes a =>
        cases passes with
        | zero => exact ih a w'
        | succ n => rfl

@[simp] theorem poll_waiting (s : Surroundings Ask Answer σ) (id : Nat) (p : Program Ask Answer α)
    (w : σ) :
    (waiting p).poll s id w = if s.hasTurn id w then advance s id p w else (waiting p, w) := rfl

theorem poll_alone (s : Surroundings Ask Answer σ) (id : Nat) (t : Task Ask Answer α) (w : σ) :
    (t.poll s id w).1.rest.alone s id (t.poll s id w).2 = t.rest.alone s id w := by
  cases t with
  | ready p => exact advance_alone s id p w
  | asleep polls p =>
    cases polls with
    | zero => exact advance_alone s id p w
    | succ n => rfl
  | waiting p =>
    rw [poll_waiting]
    split
    · exact advance_alone s id p w
    · rfl
  | finished a => rfl

/-- The scheduler leads a single task to the result of its program. -/
theorem passes_alone (s : Surroundings Ask Answer σ) (n : Nat) (t : Task Ask Answer α) (w : σ) :
    ∃ t' w', passes s n [t] w = ([t'], w') ∧ t'.rest.alone s 0 w' = t.rest.alone s 0 w := by
  induction n generalizing t w with
  | zero => exact ⟨t, w, rfl, rfl⟩
  | succ n ih =>
    unfold passes
    split
    · exact ⟨t, w, rfl, rfl⟩
    · obtain ⟨t', w', hp, he⟩ := ih (t.poll s 0 w).1 (t.poll s 0 w).2
      exact ⟨t', w', hp, he.trans (poll_alone s 0 t w)⟩

end Task

end BearerSession
