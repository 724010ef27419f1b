import BearerSession.Session
import BearerSession.Simulation.Schedule
import BearerSession.Store.Selection

namespace BearerSession

open GraphQL (Envelope Outgoing Transport TransportError)

/-- A prepared reply of the endpoint, and for how many passes it lets the caller wait. -/
structure Reply where
  status : Nat
  body : List Glyph
  passes : Nat

namespace Reply

/-- What is replied when nothing was prepared. -/
def unprepared : Reply := ⟨599, [], 0⟩

/-- The answer of a reply. -/
def answer (r : Reply) : Except TransportError Envelope :=
  match Json.readText Envelope.read r.body with
  | .ok envelope => .ok envelope
  | .error e => .error (.undecodable r.status e)

end Reply

/-- The calls of a store. -/
inductive StoreCall
  | get
  | set
  | remove
  deriving DecidableEq, Repr

/-- The name of a call. -/
def StoreCall.name : StoreCall → String
  | get => "get"
  | set => "set"
  | remove => "remove"

/-- Something that happened. -/
inductive Event
  | get (key : String)
  | set (key : String) (value : Secret) (ttl : Span)
  | remove (key : String)
  | send (destination : Url) (message : Outgoing)
  | redirect
  | exchange (token : Secret)
  | hook (name : String)
  | log (line : LogLine)
  | mark (name : String) (task : Nat)

/-- A lock: who holds it, and who waits for it, first come first. -/
structure Lock where
  holder : Option Nat := none
  queue : List Nat := []
  deriving DecidableEq, Repr

namespace Lock

/-- Takes the lock if nobody holds it, and otherwise joins the queue. -/
def acquire (l : Lock) (task : Nat) : Lock :=
  match l.holder with
  | none => { l with holder := some task }
  | some _ => { l with queue := l.queue ++ [task] }

/-- Hands the lock to whoever waits first. -/
def release (l : Lock) : Lock :=
  match l.queue with
  | [] => ⟨none, []⟩
  | task :: queue => ⟨some task, queue⟩

end Lock

/-- The state of a gate. Its count of finished refreshes does not wrap, as one of 64 bits would
after `2 ^ 64` of them. -/
structure GateState where
  completed : Nat := 0
  last : Option RefreshOutcome := none
  lock : Lock := {}

/-- The surroundings at some moment. The clock is read once for each call of the store. -/
structure World where
  clock : Nat → Instant
  reads : Nat := 0
  store : AnyStore := .memory {}
  machine : Machine
  faults : List (StoreCall × String) := []
  replies : List Reply := []
  supplies : List Headers := []
  gate : GateState := {}
  logging : Bool := false
  /-- What happened, the latest first. -/
  record : List Event := []

/-- What programs ask of the surroundings. -/
inductive Call
  | get (key : String)
  | set (key : String) (value : Secret) (ttl : Span)
  | remove (key : String)
  | send (destination : Url) (message : Outgoing)
  | log (line : LogLine)
  | note (e : Event)
  | supply
  | pause (passes : Nat)
  | completed
  | last
  | settle (outcome : RefreshOutcome)
  | acquire
  | release

/-- What a call is answered with. -/
abbrev Call.Answer : Call → Type
  | get _ => Except StoreError (Option Secret)
  | set _ _ _ => Except StoreError Unit
  | remove _ => Except StoreError Unit
  | send _ _ => Except TransportError Envelope
  | supply => Headers
  | completed => Nat
  | last => Option RefreshOutcome
  | _ => Unit

abbrev Script := Program Call Call.Answer

namespace World

def note (w : World) (e : Event) : World := { w with record := e :: w.record }

/-- Records a line of the log where these are wanted. -/
def write (w : World) (line : LogLine) : World := if w.logging then w.note (.log line) else w

/-- The time of the next call of the store. -/
def now (w : World) : Instant := w.clock w.reads

/-- The refusal of a call that was told to fail. -/
def fault? (w : World) (call : StoreCall) (key : String) : Option StoreError :=
  if w.faults.contains (call, key) then some (.backend ("injected " ++ call.name ++ " " ++ key))
  else none

/-- Reads a key of the store. -/
def get (w : World) (key : String) : Except StoreError (Option Secret) × World :=
  let w := w.note (.get key)
  match w.fault? .get key with
  | some e => (.error e, w)
  | none =>
    let (result, store, machine, lines) := w.store.get w.now key w.machine
    (result, lines.foldl write { w with store, machine, reads := w.reads + 1 })

/-- Writes a key of the store. -/
def set (w : World) (key : String) (value : Secret) (ttl : Span) : Except StoreError Unit × World :=
  let w := w.note (.set key value ttl)
  match w.fault? .set key with
  | some e => (.error e, w)
  | none =>
    let (result, store, machine) := w.store.set w.now key value ttl w.machine
    (result, { w with store, machine, reads := w.reads + 1 })

/-- Forgets a key of the store. -/
def remove (w : World) (key : String) : Except StoreError Unit × World :=
  let w := w.note (.remove key)
  match w.fault? .remove key with
  | some e => (.error e, w)
  | none =>
    let (result, store, machine) := w.store.remove w.now key w.machine
    (result, { w with store, machine, reads := w.reads + 1 })

/-- Takes the next prepared reply. -/
def reply (w : World) : Reply × World :=
  match w.replies with
  | [] => (.unprepared, w)
  | r :: replies => (r, { w with replies })

/-- Answers a call of a task. -/
def react (task : Nat) (c : Call) (w : World) : Reaction c.Answer × World :=
  match c with
  | .get key =>
    let (result, w) := w.get key
    (.now result, w)
  | .set key value ttl =>
    let (result, w) := w.set key value ttl
    (.now result, w)
  | .remove key =>
    let (result, w) := w.remove key
    (.now result, w)
  | .send destination message =>
    let (r, w) := (w.note (.send destination message)).reply
    (.later r.passes r.answer, w)
  | .log line => (.now (), w.write line)
  | .note e => (.now (), w.note e)
  | .supply =>
    match w.supplies with
    | [] => (.now SortedMap.empty, w)
    | headers :: supplies => (.now headers, { w with supplies })
  | .pause passes => (.later passes (), w)
  | .completed => (.now w.gate.completed, w)
  | .last => (.now w.gate.last, w)
  | .settle outcome =>
    (.now (), { w with gate :=
      { w.gate with last := some outcome, completed := w.gate.completed + 1 } })
  | .acquire =>
    let reaction := if w.gate.lock.holder.isNone then .now () else .queued ()
    (reaction, { w with gate := { w.gate with lock := w.gate.lock.acquire task } })
  | .release => (.now (), { w with gate := { w.gate with lock := w.gate.lock.release } })

/-- The surroundings for numbered tasks; the turn is with the holder of the lock. -/
def surroundings : Surroundings Call Call.Answer World :=
  ⟨react, fun task w => w.gate.lock.holder = some task⟩

/-- For how many passes the prepared replies let their callers wait in all. -/
def pending (w : World) : Nat := w.replies.foldl (fun n r => n + r.passes) 0

/-- Runs programs side by side, with passes enough for their replies and so many pauses. -/
def runAll {α : Type} (w : World) (pauses : Nat) (ps : List (Script α)) : List (Option α) × World :=
  let (ts, w) := Task.passes surroundings (w.pending + pauses + ps.length + 2) (ps.map .ready) w
  (ts.map Task.result?, w)

/-- Runs a program alone. -/
def run {α : Type} (w : World) (p : Script α) : Option α × World :=
  let (results, w) := w.runAll 0 [p]
  (results.head?.join, w)

end World

namespace Script

def ask (c : Call) : Script c.Answer := Program.call c

/-- The store of the surroundings. -/
def store : Store Script :=
  ⟨fun key => ask (.get key), fun key value ttl => ask (.set key value ttl),
    fun key => ask (.remove key)⟩

def transport : Transport Script := ⟨fun destination message => ask (.send destination message)⟩

def log : Log Script := ⟨fun line => ask (.log line)⟩

def note (e : Event) : Script Unit := ask (.note e)

def pause (passes : Nat) : Script Unit := ask (.pause passes)

/-- The gate of the surroundings. -/
def gate : Gate Script :=
  ⟨ask .completed, ask .last, fun outcome => ask (.settle outcome), ask .acquire,
    ask .release⟩

/-- A session in the surroundings. -/
def session (destination : Url) (options : SessionOptions) (redirects : Bool) : Session Script where
  transport := transport
  destination := destination
  store := store
  log := log
  redirect := if redirects then note .redirect else pure ()
  keys := options.keys
  ttl := options.ttl
  gate := if options.singleFlight then some gate else none

end Script

end BearerSession
