import BearerSession.Proofs.Discipline
import BearerSession.Proofs.HeaderOverlay
import BearerSession.Proofs.LoneSession

namespace BearerSession

open GraphQL (AuthFailure Envelope Outgoing Request RequestError TransportError)

/-- What a request comes to. -/
abbrev Response := Except RequestError (Option Json.Value)

/-- Requests of one session over a store in memory that holds a refresh credential. -/
structure Crowd where
  destination : Url
  options : SessionOptions
  redirects : Bool
  requests : List Request
  token : Secret
  /-- The time from which the refresh credential counts as absent if it is not written again. -/
  horizon : Instant
  store : MemoryStore
  start : World
  distinct : options.keys.access ≠ options.keys.refresh
  memory : start.store = .memory store
  reliable : start.faults = []
  held : store.entries.get? options.keys.refresh = some ⟨token, horizon⟩

/-- How often a task did what requests do, and which key it read last. -/
structure Tally where
  reading : Option String := none
  attempts : Nat := 0
  arrivals : Nat := 0
  refreshes : Nat := 0
  deriving DecidableEq, Repr

/-- The tally after one more call. What is sent after the refresh credential was read is its
exchange, and every other message is an attempt. -/
def Tally.after (keys : CredentialKeys) (t : Tally) : Call → Tally
  | .get key =>
    { t with
      reading := some key
      refreshes := if key = keys.refresh then t.refreshes + 1 else t.refreshes }
  | .send _ _ =>
    { t with
      attempts := if t.reading = some keys.refresh then t.attempts else t.attempts + 1 }
  | .acquire => { t with arrivals := t.arrivals + 1 }
  | _ => t

/-- What a request may come to: two attempts and one recovery. To recover is to come to the gate, if
there is one, and to refresh unless an outcome is shared. -/
structure Tally.IsBounded (t : Tally) : Prop where
  attempts : t.attempts ≤ 2
  arrivals : t.arrivals ≤ 1
  refreshes : t.refreshes ≤ 1

/-- The tally of a task in a history, which has its latest moment first. -/
def tally (keys : CredentialKeys) (i : Nat) : List Moment → Tally
  | [] => {}
  | m :: h => if m.task = i then (tally keys i h).after keys m.call else tally keys i h

/-- The answers to the exchanges of a refresh credential. -/
def exchanges (keys : CredentialKeys) : List Moment → List (Except TransportError Envelope)
  | [] => []
  | ⟨i, .send _ _, answer⟩ :: h =>
    if (tally keys i h).reading = some keys.refresh then answer :: exchanges keys h
    else exchanges keys h
  | _ :: h => exchanges keys h

/-- Who wrote a key last, what it wrote, and what had happened before. -/
structure Writing where
  task : Nat
  value : Secret
  before : List Moment

/-- The latest write of a key. -/
def newest? (key : String) : List Moment → Option Writing
  | [] => none
  | ⟨i, .set key' value _, _⟩ :: h => if key' = key then some ⟨i, value, h⟩ else newest? key h
  | _ :: h => newest? key h

/-- The latest moment of its task, and what came before it. -/
def Latest (m : Moment) (before h : List Moment) : Prop :=
  ∃ idle, h = idle ++ m :: before ∧ ∀ m' ∈ idle, m'.task ≠ m.task

/-- The notice that an attempt was refused. -/
def rejection (destination : Url) (reason : AuthFailure) : LogLine :=
  ⟨.warn, "Request to " ++ destination.href ++ " rejected (" ++ reason.message
    ++ "), recovering credentials"⟩

section History

variable {keys : CredentialKeys} {i : Nat} {m : Moment} {h before : List Moment}

theorem tally_mk (keys : CredentialKeys) (i : Nat) (c : Call) (a : c.Answer) (h : List Moment) :
    tally keys i (⟨i, c, a⟩ :: h) = (tally keys i h).after keys c := if_pos rfl

theorem tally_other (hm : m.task ≠ i) : tally keys i (m :: h) = tally keys i h := if_neg hm

theorem tally_of_absent (hm : ∀ m ∈ h, m.task ≠ i) : tally keys i h = {} := by
  induction h with
  | nil => rfl
  | cons m h ih =>
    rw [tally_other (hm m List.mem_cons_self)]
    exact ih fun m' hm' => hm m' (List.mem_cons_of_mem m hm')

theorem exchanges_send (keys : CredentialKeys) (i : Nat) (destination : Url) (message : Outgoing)
    (answer : Except TransportError Envelope) (h : List Moment) :
    exchanges keys (⟨i, .send destination message, answer⟩ :: h) =
      if (tally keys i h).reading = some keys.refresh then answer :: exchanges keys h
      else exchanges keys h := rfl

theorem exchanges_cons (keys : CredentialKeys) (m : Moment) (h : List Moment) :
    exchanges keys h ⊆ exchanges keys (m :: h) := by
  obtain ⟨j, call, a⟩ := m
  cases call with
  | send destination message =>
    rw [exchanges_send]
    split
    · exact List.subset_cons_self _ _
    · exact List.Subset.refl _
  | _ => exact List.Subset.refl _

theorem newest?_before {key : String} {x : Writing} (hx : newest? key h = some x) :
    x.before <:+ h := by
  fun_induction newest? key h with
  | case1 => cases hx
  | case2 =>
    cases hx
    exact List.suffix_cons _ _
  | case3 _ _ _ _ _ _ _ ih => exact (ih hx).trans (List.suffix_cons _ _)
  | case4 _ _ _ ih => exact (ih hx).trans (List.suffix_cons _ _)

theorem newest?_cons (key : String) (m : Moment) (h : List Moment) :
    newest? key (m :: h) = newest? key h ∨
      ∃ value ttl, m.call = .set key value ttl ∧
        newest? key (m :: h) = some ⟨m.task, value, h⟩ := by
  obtain ⟨j, c, a⟩ := m
  cases c with
  | set key' value ttl =>
    by_cases hk : key' = key
    · subst hk
      exact .inr ⟨value, ttl, rfl, if_pos rfl⟩
    · exact .inl (if_neg hk)
  | _ => exact .inl rfl

/-- A key was written after a moment. -/
def Renewed (key : String) (since h : List Moment) : Prop :=
  ∃ x, newest? key h = some x ∧ since <:+ x.before

theorem Renewed.cons {key : String} {since : List Moment} (hr : Renewed key since h)
    (m : Moment) : Renewed key since (m :: h) := by
  obtain ⟨x, hx, hs⟩ := hr
  rcases newest?_cons key m h with hn | ⟨value, ttl, -, hn⟩
  · exact ⟨x, hn.trans hx, hs⟩
  · exact ⟨_, hn, hs.trans (newest?_before hx)⟩

theorem Latest.now (m : Moment) (h : List Moment) : Latest m h (m :: h) :=
  ⟨[], rfl, fun _ hm => nomatch hm⟩

theorem Latest.cons {m' : Moment} (hl : Latest m before h) (hm : m'.task ≠ m.task) :
    Latest m before (m' :: h) := by
  obtain ⟨idle, hh, hi⟩ := hl
  refine ⟨m' :: idle, by rw [hh]; rfl, fun x hx => ?_⟩
  rcases List.mem_cons.mp hx with rfl | hx
  · exact hm
  · exact hi x hx

theorem Latest.tally (keys : CredentialKeys) (hl : Latest m before h) :
    tally keys m.task h = (tally keys m.task before).after keys m.call := by
  obtain ⟨idle, rfl, hi⟩ := hl
  induction idle with
  | nil => exact if_pos rfl
  | cons m' idle ih =>
    rw [List.cons_append, tally_other (hi m' List.mem_cons_self)]
    exact ih fun x hx => hi x (List.mem_cons_of_mem m' hx)

theorem Latest.mem_exchanges {destination : Url} {message : Outgoing}
    {answer : Except TransportError Envelope}
    (hl : Latest ⟨i, .send destination message, answer⟩ before h)
    (hr : (BearerSession.tally keys i before).reading = some keys.refresh) :
    answer ∈ exchanges keys h := by
  obtain ⟨idle, rfl, -⟩ := hl
  induction idle with
  | nil =>
    rw [List.nil_append, exchanges_send, if_pos hr]
    exact List.mem_cons_self
  | cons m idle ih => exact exchanges_cons keys m _ ih

/-- What ends with a moment of another task came before one's own latest moments. -/
theorem suffix_of_own {own h : List Moment} (hown : ∀ m ∈ own, m.task = i) (hm : m.task ≠ i)
    (hs : m :: before <:+ own ++ h) : m :: before <:+ h := by
  induction own with
  | nil => exact hs
  | cons x own ih =>
    rcases List.suffix_cons_iff.mp hs with heq | hs
    · have hx : m = x := (List.cons.inj heq).1
      exact absurd (hx ▸ hown x List.mem_cons_self) hm
    · exact ih (fun y hy => hown y (List.mem_cons_of_mem x hy)) hs

end History

namespace Crowd

variable (c : Crowd)

def session : Session Script := Script.session c.destination c.options c.redirects

/-- The requests before they run. -/
def tasks : List (Task Call Call.Answer Response) :=
  c.requests.map fun r => .ready (c.session.request r)

/-- Up to a reading of the clock neither the refresh credential of the start expires nor anything
that was written since. -/
structure Lasts (last : Nat) : Prop where
  held : ∀ n, c.start.reads ≤ n → n ≤ last → c.start.clock n < c.horizon
  written : ∀ n n', c.start.reads ≤ n → n < n' → n' ≤ last →
    c.start.clock n' < (c.start.clock n).plus c.options.ttl

/-- So far no horizon has passed and every exchange was granted. -/
structure Spared (s : Scene) : Prop where
  lasts : c.Lasts s.world.reads
  granted : ∀ answer ∈ exchanges c.options.keys s.past, ∃ grant, granted answer = .ok grant

/-- A task has just been granted an access credential in exchange for the refresh credential. -/
def Exchanged (i : Nat) (access : Secret) (h : List Moment) : Prop :=
  ∃ answer grant before,
    Latest ⟨i, .send c.destination (refreshRequest c.token).outgoing, answer⟩ before h ∧
    (tally c.options.keys i before).reading = some c.options.keys.refresh ∧
    granted answer = .ok grant ∧ grant.access = access

/-- A task has just sent its first attempt. -/
def Tried (i : Nat) (r : Request) (answer : Except TransportError Envelope) (h : List Moment) :
    Prop :=
  ∃ auth before,
    Latest ⟨i, .send c.destination (attemptMessage r auth), answer⟩ before h ∧
    tally c.options.keys i before = { reading := some c.options.keys.access }

/-- A task has just taken notice that its first attempt was refused. -/
def Failed (i : Nat) (r : Request) (h : List Moment) : Prop :=
  ∃ reason answer heard, h = ⟨i, .log (rejection c.destination reason), ()⟩ :: heard ∧
    isRefused answer = true ∧ c.Tried i r answer heard

/-- A message carries the access credential that was written last, which a refresh was granted and
wrote after the first attempt of the task had failed. -/
def Retries (i : Nat) (r : Request) (message : Outgoing) (h : List Moment) : Prop :=
  ∃ x failure, newest? c.options.keys.access h = some x ∧ c.Exchanged x.task x.value x.before ∧
    c.Failed i r failure ∧ failure <:+ x.before ∧ message = attemptMessage r (bearer x.value) ∧
    ∀ name, Headers.sameName name authorization = true →
      message.headers.get? name =
        if name = authorization then some ("Bearer " ++ x.value.expose) else none

/-- What a record of calls tells of the requests: each makes at most two attempts and one recovery,
nobody is redirected, and retries carry the latest access credential. -/
structure Record (h : List Moment) : Prop where
  bounded : ∀ i, (tally c.options.keys i h).IsBounded
  loyal : ∀ m ∈ h, m.call ≠ .note .redirect
  /-- The second attempt of a task is its retry. -/
  retried : ∀ i destination message answer before,
    ⟨i, .send destination message, answer⟩ :: before <:+ h →
    (tally c.options.keys i before).reading ≠ some c.options.keys.refresh →
    (tally c.options.keys i before).attempts = 1 →
    ∃ r, c.requests[i]? = some r ∧ c.Retries i r message before

end Crowd

end BearerSession
