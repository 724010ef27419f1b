import BearerSession.Proofs.MutationMessage
import BearerSession.Proofs.SessionSteps
import Mathlib.Data.List.Forall2

namespace BearerSession

open GraphQL (Envelope Outgoing Request TransportError)

/-- The exchanges of two refresh credentials. They differ in their bodies, and those in the token
alone. -/
structure AreExchanges (left right : Secret) (message message' : Outgoing) : Prop where
  left : IsExchange message left
  right : IsExchange message' right
  bodies : message' = { message with body := message'.body }

/-- One message with two access credentials for its authorization. -/
structure AreAuthorized (left right : Secret) (message message' : Outgoing) : Prop where
  left : message.headers.get? authorization = some ("Bearer " ++ left.expose)
  right : message' =
    { message with headers := message.headers.insert authorization ("Bearer " ++ right.expose) }

/-- A key whose value is one secret in one run and another secret in the other, and the messages
that may differ for it. -/
structure Veil where
  key : String
  left : Secret
  right : Secret
  similar : Outgoing → Outgoing → Prop

/-- Two access credentials in the attempts of one request. -/
theorem attempts_areAuthorized (r : Request) (left right : Secret) :
    AreAuthorized left right (attemptMessage r (bearer left))
      (attemptMessage r (bearer right)) := by
  have hbearer : (bearer left).get? authorization = some ("Bearer " ++ left.expose) := by
    simp [bearer]
  have hlaid : (r.headers.overlay (bearer left)).get? authorization =
      some ("Bearer " ++ left.expose) := Headers.overlay_get?_of_some hbearer
  refine ⟨Headers.overlay_get?_of_some hlaid, ?_⟩
  unfold attemptMessage Request.outgoing
  rw [bearer_insert left right, Headers.overlay_insert _ (SortedMap.mem_keys_of_get? hbearer),
    Headers.overlay_insert _ (SortedMap.mem_keys_of_get? hlaid)]
  rfl

/-- Two refresh credentials in the exchanges of them. -/
theorem exchanges_areExchanges (left right : Secret) :
    AreExchanges left right (refreshRequest left).outgoing (refreshRequest right).outgoing :=
  ⟨isExchange_outgoing left, isExchange_outgoing right, rfl⟩

def Moment.redirects : Moment → Bool
  | ⟨_, .note .redirect, _⟩ => true
  | _ => false

namespace Veil

def ofRefresh (keys : CredentialKeys) (left right : Secret) : Veil :=
  ⟨keys.refresh, left, right, AreExchanges left right⟩

def ofAccess (keys : CredentialKeys) (left right : Secret) : Veil :=
  ⟨keys.access, left, right, AreAuthorized left right⟩

variable (v : Veil)

/-- Stores that differ at most in the hidden value. -/
structure Stores (m m' : MemoryStore) : Prop where
  others : ∀ key, key ≠ v.key → m.entries.get? key = m'.entries.get? key
  hidden : m.entries.get? v.key = m'.entries.get? v.key ∨
    ∃ t, m.entries.get? v.key = some ⟨v.left, t⟩ ∧ m'.entries.get? v.key = some ⟨v.right, t⟩

/-- Worlds that differ at most in the hidden value and in what is recorded of it. -/
structure Worlds (w w' : World) : Prop where
  reliable : w.faults = []
  alike : ∃ m m' record, w.store = .memory m ∧ v.Stores m m' ∧
    w' = { w with store := .memory m', record := record }

/-- The same call with the same answer, but for the hidden value and the messages that may
differ. -/
inductive Moments : Moment → Moment → Prop
  | same (m : Moment) : Moments m m
  | read (i : Nat) :
      Moments ⟨i, .get v.key, .ok (some v.left)⟩ ⟨i, .get v.key, .ok (some v.right)⟩
  | written (i : Nat) (ttl : Span) (answer : Except StoreError Unit) :
      Moments ⟨i, .set v.key v.left ttl, answer⟩ ⟨i, .set v.key v.right ttl, answer⟩
  | sent (i : Nat) (destination : Url) {message message' : Outgoing}
      (answer : Except TransportError Envelope) : v.similar message message' →
      Moments ⟨i, .send destination message, answer⟩ ⟨i, .send destination message', answer⟩

structure Scenes (s s' : Scene) : Prop where
  worlds : v.Worlds s.world s'.world
  past : List.Forall₂ v.Moments s.past s'.past

/-- Programs that make the same calls, but for the hidden value and the messages that may differ, as
long as they are given the same answers but for that value. -/
inductive Programs {α : Type} : Script α → Script α → Prop
  | done (a : α) : Programs (Program.done a) (Program.done a)
  | same {c : Call} {next next' : c.Answer → Script α} (shown : c ≠ .get v.key)
      (rest : ∀ a, Programs (next a) (next' a)) :
      Programs (Program.ask c next) (Program.ask c next')
  | read {next next' : Except StoreError (Option Secret) → Script α}
      (rest : ∀ a, Programs (next a) (next' a))
      (hidden : Programs (next (.ok (some v.left))) (next' (.ok (some v.right)))) :
      Programs (Program.ask (.get v.key) next) (Program.ask (.get v.key) next')
  | write {ttl : Span} {next next' : Except StoreError Unit → Script α}
      (rest : ∀ a, Programs (next a) (next' a)) :
      Programs (Program.ask (.set v.key v.left ttl) next)
        (Program.ask (.set v.key v.right ttl) next')
  | send {destination : Url} {message message' : Outgoing}
      {next next' : Except TransportError Envelope → Script α}
      (similar : v.similar message message') (rest : ∀ a, Programs (next a) (next' a)) :
      Programs (Program.ask (.send destination message) next)
        (Program.ask (.send destination message') next')

variable {v} {m m' : MemoryStore} {now : Instant} {w w' : World} {s s' : Scene}
  (id : Nat)

namespace Stores

theorem get (h : v.Stores m m') {key : String} (hk : key ≠ v.key) :
    m.get now key = m'.get now key := by
  unfold MemoryStore.get
  rw [h.others key hk]

theorem read (h : v.Stores m m') :
    m.get now v.key = m'.get now v.key ∨
      m.get now v.key = some v.left ∧ m'.get now v.key = some v.right := by
  unfold MemoryStore.get
  rcases h.hidden with heq | ⟨t, hl, hr⟩
  · exact .inl (by rw [heq])
  · rw [hl, hr]
    by_cases hlive : now < t
    · exact .inr (by simp [liveValue, Option.filter, StoredEntry.isLive, hlive])
    · exact .inl (by simp [liveValue, Option.filter, StoredEntry.isLive, hlive])

theorem set (h : v.Stores m m') (key : String) (value : Secret) (ttl : Span) :
    v.Stores (m.set now key value ttl) (m'.set now key value ttl) := by
  constructor
  · intro key' hk
    simp [MemoryStore.set, h.others key' hk]
  · by_cases hk : v.key = key
    · exact .inl (by simp [MemoryStore.set, hk])
    · simpa [MemoryStore.set, hk] using h.hidden

theorem set_hidden (h : v.Stores m m') (ttl : Span) :
    v.Stores (m.set now v.key v.left ttl) (m'.set now v.key v.right ttl) := by
  constructor
  · intro key' hk
    simp [MemoryStore.set, hk, h.others key' hk]
  · exact .inr ⟨now.plus ttl, by simp [MemoryStore.set, StoredEntry.stamp]⟩

/-- A store that holds one value, and what it becomes when the other is written as the one was. -/
theorem of_set {ttl : Span} (h : m.entries.get? v.key = some (.stamp v.left now ttl)) :
    v.Stores m (m.set now v.key v.right ttl) := by
  constructor
  · intro key hk
    simp [MemoryStore.set, hk]
  · exact .inr ⟨now.plus ttl, h, by simp [MemoryStore.set, StoredEntry.stamp]⟩

theorem remove (h : v.Stores m m') (key : String) : v.Stores (m.remove key) (m'.remove key) := by
  constructor
  · intro key' hk
    simp [MemoryStore.remove, h.others key' hk]
  · by_cases hk : v.key = key
    · exact .inl (by simp [MemoryStore.remove, hk])
    · simpa [MemoryStore.remove, hk] using h.hidden

end Stores

section Calls

variable {record : List Event} (hf : w.faults = [])

include hf

theorem get_veiled (key : String) :
    World.get { w with store := .memory m', record := record } key =
      (.ok (m'.get w.now key),
        { w with store := .memory m', record := .get key :: record, reads := w.reads + 1 }) :=
  World.get_memory (w := { w with store := .memory m', record := record }) rfl hf key

theorem set_veiled (key : String) (value : Secret) (ttl : Span) :
    World.set { w with store := .memory m', record := record } key value ttl =
      (.ok (), { w with
        store := .memory (m'.set w.now key value ttl)
        record := .set key value ttl :: record
        reads := w.reads + 1 }) :=
  World.set_memory (w := { w with store := .memory m', record := record }) rfl hf key value ttl

theorem remove_veiled (key : String) :
    World.remove { w with store := .memory m', record := record } key =
      (.ok (), { w with
        store := .memory (m'.remove key)
        record := .remove key :: record
        reads := w.reads + 1 }) :=
  World.remove_memory (w := { w with store := .memory m', record := record }) rfl hf key

end Calls

/-- A call that does not read the hidden value has the same answer. -/
theorem Worlds.react (h : v.Worlds w w') {c : Call} (shown : c ≠ .get v.key) :
    (Endpoint.scripted.react id c w).1 = (Endpoint.scripted.react id c w').1 ∧
      v.Worlds (Endpoint.scripted.react id c w).2 (Endpoint.scripted.react id c w').2 := by
  obtain ⟨hf, m, m', record, hs, hm, rfl⟩ := h
  simp only [scripted_react]
  cases c with
  | get key =>
    have hk : key ≠ v.key := fun heq => shown (congrArg Call.get heq)
    simp only [World.react, World.get_memory hs hf, get_veiled hf]
    exact ⟨congrArg (Reaction.now ∘ Except.ok) (hm.get hk), hf, m, m', _, hs, hm, rfl⟩
  | set key value ttl =>
    simp only [World.react, World.set_memory hs hf, set_veiled hf]
    exact ⟨trivial, hf, _, _, _, rfl, hm.set key value ttl, rfl⟩
  | remove key =>
    simp only [World.react, World.remove_memory hs hf, remove_veiled hf]
    exact ⟨trivial, hf, _, _, _, rfl, hm.remove key, rfl⟩
  | send destination message =>
    simp only [World.react, World.reply, World.note]
    cases w.replies <;> exact ⟨rfl, hf, m, m', _, hs, hm, rfl⟩
  | log line =>
    obtain ⟨_, _, _, _, _, _, _, _, logging, _⟩ := w
    cases logging <;> exact ⟨rfl, hf, m, m', _, hs, hm, rfl⟩
  | supply =>
    obtain ⟨_, _, _, _, _, _, supplies, _, _, _⟩ := w
    cases supplies <;> exact ⟨rfl, hf, m, m', _, hs, hm, rfl⟩
  | _ => exact ⟨rfl, hf, m, m', _, hs, hm, rfl⟩

/-- What the hidden key reads is the same, or the hidden value. -/
theorem Worlds.read (h : v.Worlds w w') :
    ((Endpoint.scripted.react id (.get v.key) w).1.answer =
        (Endpoint.scripted.react id (.get v.key) w').1.answer ∨
      (Endpoint.scripted.react id (.get v.key) w).1.answer = .ok (some v.left) ∧
        (Endpoint.scripted.react id (.get v.key) w').1.answer = .ok (some v.right)) ∧
      v.Worlds (Endpoint.scripted.react id (.get v.key) w).2
        (Endpoint.scripted.react id (.get v.key) w').2 := by
  obtain ⟨hf, m, m', record, hs, hm, rfl⟩ := h
  simp only [scripted_react, World.react, World.get_memory hs hf, get_veiled hf]
  refine ⟨?_, hf, m, m', _, hs, hm, rfl⟩
  exact hm.read.imp (congrArg Except.ok) fun h => ⟨congrArg Except.ok h.1, congrArg Except.ok h.2⟩

theorem Worlds.write (h : v.Worlds w w') (ttl : Span) :
    (Endpoint.scripted.react id (.set v.key v.left ttl) w).1.answer =
        (Endpoint.scripted.react id (.set v.key v.right ttl) w').1.answer ∧
      v.Worlds (Endpoint.scripted.react id (.set v.key v.left ttl) w).2
        (Endpoint.scripted.react id (.set v.key v.right ttl) w').2 := by
  obtain ⟨hf, m, m', record, hs, hm, rfl⟩ := h
  simp only [scripted_react, World.react, World.set_memory hs hf, set_veiled hf]
  exact ⟨trivial, hf, _, _, _, rfl, hm.set_hidden ttl, rfl⟩

/-- The endpoint answers without a look at the message. -/
theorem Worlds.send (h : v.Worlds w w') (destination : Url) (message message' : Outgoing) :
    (Endpoint.scripted.react id (.send destination message) w).1.answer =
        (Endpoint.scripted.react id (.send destination message') w').1.answer ∧
      v.Worlds (Endpoint.scripted.react id (.send destination message) w).2
        (Endpoint.scripted.react id (.send destination message') w').2 := by
  obtain ⟨hf, m, m', record, hs, hm, rfl⟩ := h
  simp only [scripted_react, World.react, World.reply, World.note]
  cases w.replies <;> exact ⟨rfl, hf, m, m', _, hs, hm, rfl⟩

namespace Scenes

theorem step (h : v.Scenes s s') {c c' : Call}
    (worlds : v.Worlds (Endpoint.scripted.react id c s.world).2
      (Endpoint.scripted.react id c' s'.world).2)
    (moments : v.Moments ⟨id, c, (Endpoint.scripted.react id c s.world).1.answer⟩
      ⟨id, c', (Endpoint.scripted.react id c' s'.world).1.answer⟩) :
    v.Scenes (Endpoint.scripted.scenes.react id c s).2
      (Endpoint.scripted.scenes.react id c' s').2 :=
  ⟨worlds, .cons moments h.past⟩

theorem same (h : v.Scenes s s') {c : Call} (shown : c ≠ .get v.key) :
    (Endpoint.scripted.scenes.react id c s).1.answer =
        (Endpoint.scripted.scenes.react id c s').1.answer ∧
      v.Scenes (Endpoint.scripted.scenes.react id c s).2
        (Endpoint.scripted.scenes.react id c s').2 := by
  obtain ⟨hreaction, hworlds⟩ := h.worlds.react id shown
  have hanswer := congrArg Reaction.answer hreaction
  refine ⟨hanswer, h.step id hworlds ?_⟩
  rw [hanswer]
  exact .same _

theorem read (h : v.Scenes s s') :
    ((Endpoint.scripted.scenes.react id (.get v.key) s).1.answer =
        (Endpoint.scripted.scenes.react id (.get v.key) s').1.answer ∨
      (Endpoint.scripted.scenes.react id (.get v.key) s).1.answer = .ok (some v.left) ∧
        (Endpoint.scripted.scenes.react id (.get v.key) s').1.answer = .ok (some v.right)) ∧
      v.Scenes (Endpoint.scripted.scenes.react id (.get v.key) s).2
        (Endpoint.scripted.scenes.react id (.get v.key) s').2 := by
  obtain ⟨hanswer, hworlds⟩ := h.worlds.read id
  refine ⟨hanswer, h.step id hworlds ?_⟩
  rcases hanswer with hsame | ⟨hleft, hright⟩
  · rw [hsame]
    exact .same _
  · rw [hleft, hright]
    exact .read id

theorem write (h : v.Scenes s s') (ttl : Span) :
    (Endpoint.scripted.scenes.react id (.set v.key v.left ttl) s).1.answer =
        (Endpoint.scripted.scenes.react id (.set v.key v.right ttl) s').1.answer ∧
      v.Scenes (Endpoint.scripted.scenes.react id (.set v.key v.left ttl) s).2
        (Endpoint.scripted.scenes.react id (.set v.key v.right ttl) s').2 := by
  obtain ⟨hanswer, hworlds⟩ := h.worlds.write id ttl
  refine ⟨hanswer, h.step id hworlds ?_⟩
  rw [hanswer]
  exact .written id ttl _

theorem send (h : v.Scenes s s') (destination : Url) {message message' : Outgoing}
    (similar : v.similar message message') :
    (Endpoint.scripted.scenes.react id (.send destination message) s).1.answer =
        (Endpoint.scripted.scenes.react id (.send destination message') s').1.answer ∧
      v.Scenes (Endpoint.scripted.scenes.react id (.send destination message) s).2
        (Endpoint.scripted.scenes.react id (.send destination message') s').2 := by
  obtain ⟨hanswer, hworlds⟩ := h.worlds.send id destination message message'
  refine ⟨hanswer, h.step id hworlds ?_⟩
  rw [hanswer]
  exact .sent id destination _ similar

end Scenes

/-- Two runs from scenes alike come to the same result in scenes alike. -/
theorem Programs.run {α : Type} {p p' : Script α} (hp : v.Programs p p') (h : v.Scenes s s') :
    (p.alone Endpoint.scripted.scenes id s).1 = (p'.alone Endpoint.scripted.scenes id s').1 ∧
      v.Scenes (p.alone Endpoint.scripted.scenes id s).2
        (p'.alone Endpoint.scripted.scenes id s').2 := by
  induction hp generalizing s s' with
  | done a => exact ⟨rfl, h⟩
  | same shown _ ih =>
    obtain ⟨hanswer, hscenes⟩ := h.same id shown
    rw [Program.alone_ask, Program.alone_ask, hanswer]
    exact ih _ hscenes
  | read _ _ ih ihidden =>
    -- A value that has expired is read as absent in both runs.
    rcases h.read id with ⟨hanswer | ⟨hleft, hright⟩, hscenes⟩
    · rw [Program.alone_ask, Program.alone_ask, hanswer]
      exact ih _ hscenes
    · rw [Program.alone_ask, Program.alone_ask, hleft, hright]
      exact ihidden hscenes
  | @write ttl next next' _ ih =>
    obtain ⟨hanswer, hscenes⟩ := h.write id ttl
    rw [Program.alone_ask, Program.alone_ask, hanswer]
    exact ih _ hscenes
  | @send destination message message' next next' similar _ ih =>
    obtain ⟨hanswer, hscenes⟩ := h.send id destination similar
    rw [Program.alone_ask, Program.alone_ask, hanswer]
    exact ih _ hscenes

theorem Programs.bind {α β : Type} {p p' : Script α} {f f' : α → Script β}
    (hp : v.Programs p p') (hf : ∀ a, v.Programs (f a) (f' a)) :
    v.Programs (p >>= f) (p' >>= f') := by
  induction hp with
  | done a => exact hf a
  | same shown _ ih => exact .same shown ih
  | read _ _ ih ihidden => exact .read ih ihidden
  | write _ ih => exact .write ih
  | send similar _ ih => exact .send similar ih

variable (v) in
/-- The same value, or the hidden one. -/
def Values (key : String) (a b : Secret) : Prop := a = b ∨ key = v.key ∧ a = v.left ∧ b = v.right

namespace Programs

variable {α : Type} {key : String}

theorem call {c : Call} {f f' : c.Answer → Script α} (shown : c ≠ .get v.key)
    (rest : ∀ a, v.Programs (f a) (f' a)) :
    v.Programs (Script.ask c >>= f) (Script.ask c >>= f') := .same shown rest

theorem get {f f' : Except StoreError (Option Secret) → Script α}
    (failed : ∀ e, v.Programs (f (.error e)) (f' (.error e)))
    (absent : v.Programs (f (.ok none)) (f' (.ok none)))
    (found : ∀ a b, v.Values key a b → v.Programs (f (.ok (some a))) (f' (.ok (some b)))) :
    v.Programs (Script.ask (.get key) >>= f) (Script.ask (.get key) >>= f') := by
  have hrest (read : Except StoreError (Option Secret)) : v.Programs (f read) (f' read) := by
    match read with
    | .error e => exact failed e
    | .ok none => exact absent
    | .ok (some a) => exact found a a (.inl rfl)
  by_cases hk : key = v.key
  · subst hk
    exact .read hrest (found _ _ (.inr ⟨rfl, rfl, rfl⟩))
  · exact .same (fun heq => hk (Call.get.inj heq)) hrest

theorem set {a b : Secret} (values : v.Values key a b) {ttl : Span}
    {f f' : Except StoreError Unit → Script α} (rest : ∀ a, v.Programs (f a) (f' a)) :
    v.Programs (Script.ask (.set key a ttl) >>= f) (Script.ask (.set key b ttl) >>= f') := by
  rcases values with rfl | ⟨rfl, rfl, rfl⟩
  · exact .same nofun rest
  · exact .write rest

theorem message {destination : Url} {message message' : Outgoing}
    (similar : message = message' ∨ v.similar message message')
    {f f' : Except TransportError Envelope → Script α}
    (rest : ∀ a, v.Programs (f a) (f' a)) :
    v.Programs (Script.ask (.send destination message) >>= f)
      (Script.ask (.send destination message') >>= f') := by
  rcases similar with rfl | hsimilar
  · exact .same nofun rest
  · exact .send hsimilar rest

end Programs

section Steps

variable {destination : Url} {options : SessionOptions} {redirects : Bool} {r : Request}

/-- An attempt shows no more of its credential than its message does. -/
theorem attempt_alike (kind : Attempt)
    (similar : options.keys.access = v.key →
      v.similar (attemptMessage r (bearer v.left)) (attemptMessage r (bearer v.right))) :
    v.Programs
      ((Script.session destination options redirects).attempt r kind)
      ((Script.session destination options redirects).attempt r kind) := by
  rw [Session.attempt_eq]
  refine .get (fun e => ?_) ?_ fun access access' haccess => ?_
  · exact .call nofun fun _ => .call nofun fun _ => .call nofun fun _ => .done _
  · exact .call nofun fun _ => .call nofun fun _ => .done _
  · refine .call nofun fun _ => .message ?_ fun _ => .done _
    rcases haccess with rfl | ⟨hk, rfl, rfl⟩
    · exact .inl rfl
    · exact .inr (similar hk)

/-- A refresh shows no more of its credential than the exchange does. -/
theorem refresh_alike
    (similar : options.keys.refresh = v.key →
      v.similar (refreshRequest v.left).outgoing (refreshRequest v.right).outgoing) :
    v.Programs (Script.session destination options redirects).refresh
      (Script.session destination options redirects).refresh := by
  rw [Session.refresh_eq]
  refine .get (fun e => .done _) (.done _) fun token token' htoken => ?_
  have hmessage : (refreshRequest token).outgoing = (refreshRequest token').outgoing ∨
      v.similar (refreshRequest token).outgoing (refreshRequest token').outgoing := by
    rcases htoken with rfl | ⟨hk, rfl, rfl⟩
    · exact .inl rfl
    · exact .inr (similar hk)
  refine .call nofun fun _ => .message hmessage fun answer => ?_
  cases granted answer with
  | error e => exact .done _
  | ok grant =>
    refine .call nofun fun stored => ?_
    cases stored with
    | error e => exact .done _
    | ok =>
      refine .set htoken fun stored => ?_
      cases stored with
      | error e => exact .done _
      | ok => exact .call nofun fun _ => .done _

theorem invalidate_alike :
    v.Programs (Script.session destination options redirects).invalidate
      (Script.session destination options redirects).invalidate := by
  have hlogout : v.Programs (Script.session destination options redirects).logout
      (Script.session destination options redirects).logout := by
    unfold Session.logout BearerSession.logout
    refine .call nofun fun access => .call nofun fun refresh => ?_
    cases access with
    | error e => exact .call nofun fun _ => .done _
    | ok =>
      cases refresh with
      | error e => exact .call nofun fun _ => .done _
      | ok =>
        refine .call nofun fun _ => ?_
        cases redirects with
        | false => exact .done _
        | true => exact .call nofun fun _ => .done _
  unfold Session.invalidate
  refine .bind hlogout fun result => ?_
  cases result with
  | ok => exact .done _
  | error e => exact .call nofun fun _ => .done _

theorem recover_alike
    (refreshes : v.Programs (Script.session destination options redirects).refresh
      (Script.session destination options redirects).refresh) :
    v.Programs (Script.session destination options redirects).recover
      (Script.session destination options redirects).recover := by
  have houtcome : v.Programs (Script.session destination options redirects).refreshOutcome
      (Script.session destination options redirects).refreshOutcome :=
    refreshes.bind fun _ => .done _
  rw [Session.recover_eq]
  refine .bind ?_ fun _ => .done _
  cases options.singleFlight with
  | false => exact houtcome
  | true =>
    rw [if_pos rfl]
    unfold Gate.run
    refine .call nofun fun ticket => .call nofun fun _ => .call nofun fun completed => ?_
    refine .call nofun fun last => ?_
    cases (if ticket < completed then last else none) with
    | some outcome => exact .call nofun fun _ => .call nofun fun _ => .done _
    | none =>
      refine .bind houtcome fun outcome => ?_
      exact .call nofun fun _ => .call nofun fun _ => .done _

theorem request_alike
    (attempts : ∀ kind, v.Programs
      ((Script.session destination options redirects).attempt r kind)
      ((Script.session destination options redirects).attempt r kind))
    (refreshes : v.Programs (Script.session destination options redirects).refresh
      (Script.session destination options redirects).refresh) :
    v.Programs ((Script.session destination options redirects).request r)
      ((Script.session destination options redirects).request r) := by
  unfold Session.request Auth.send
  refine .bind (attempts .primary) fun response => ?_
  cases response with
  | ok data => exact .done _
  | error failure =>
    dsimp only
    cases failure.authFailure? with
    | none => exact .done _
    | some reason =>
      refine .call nofun fun _ => .bind (recover_alike refreshes) fun recovery => ?_
      cases recovery with
      | ok => exact attempts .retry
      | error e =>
        exact .call nofun fun _ => .bind invalidate_alike fun _ => attempts .retry

end Steps

variable (v) in
/-- What two runs have in common: the result, all that happened but for the hidden value and the
messages that may differ, how often the user was redirected, and the stores but for the value. -/
structure Agree {α : Type} (run run' : α × Scene) : Prop where
  result : run.1 = run'.1
  past : List.Forall₂ v.Moments run.2.past run'.2.past
  redirects : run.2.past.countP Moment.redirects = run'.2.past.countP Moment.redirects
  stores : ∃ m m', run.2.world.store = .memory m ∧ run'.2.world.store = .memory m' ∧ v.Stores m m'

theorem redirects_eq {past past' : List Moment} (h : List.Forall₂ v.Moments past past') :
    past.countP Moment.redirects = past'.countP Moment.redirects := by
  induction h with
  | nil => rfl
  | @cons moment moment' _ _ hmoment _ ih =>
    have hsame : moment.redirects = moment'.redirects := by cases hmoment <;> rfl
    rw [List.countP_cons, List.countP_cons, ih, hsame]

theorem Scenes.agree {α : Type} {a a' : α} (h : v.Scenes s s') (result : a = a') :
    v.Agree (a, s) (a', s') := by
  obtain ⟨-, m, m', record, hs, hm, hw⟩ := h.worlds
  exact ⟨result, h.past, redirects_eq h.past, m, m', hs, by rw [hw], hm⟩

end Veil

/-- A request in two runs whose stores differ in the value of one credential alone. The results are
the same, and so is all that happened, but for the messages that exchange a refresh credential, or
for the authorization of those that carry an access credential. -/
theorem request_conceals (destination : Url) (options : SessionOptions) (redirects : Bool)
    (distinct : options.keys.access ≠ options.keys.refresh) (r : Request) (id : Nat) {w : World}
    {m m' : MemoryStore} (memory : w.store = .memory m) (reliable : w.faults = [])
    (left right : Secret) {v : Veil}
    (veiled : v = .ofRefresh options.keys left right ∨ v = .ofAccess options.keys left right)
    (stores : v.Stores m m') :
    let s := Script.session destination options redirects
    let start : Scene := ⟨w, []⟩
    let start' : Scene := ⟨{ w with store := .memory m' }, []⟩
    v.Agree ((s.request r).alone Endpoint.scripted.scenes id start)
        ((s.request r).alone Endpoint.scripted.scenes id start') ∧
      ∀ {α : Type} (read : Json.Reader α),
        v.Agree ((s.requestAs r read).alone Endpoint.scripted.scenes id start)
          ((s.requestAs r read).alone Endpoint.scripted.scenes id start') := by
  intro s start start'
  have hstart : v.Scenes start start' := ⟨⟨reliable, m, m', w.record, memory, stores, rfl⟩, .nil⟩
  have hrequest : v.Programs (s.request r) (s.request r) := by
    -- The keys are distinct, so that only one of the two steps can show the hidden value.
    rcases veiled with rfl | rfl
    · exact Veil.request_alike (fun kind => Veil.attempt_alike kind fun hk => absurd hk distinct)
        (Veil.refresh_alike fun _ => exchanges_areExchanges left right)
    · exact Veil.request_alike
        (fun kind => Veil.attempt_alike kind fun _ => attempts_areAuthorized r left right)
        (Veil.refresh_alike fun hk => absurd hk.symm distinct)
  refine ⟨?_, fun read => ?_⟩
  · obtain ⟨hresult, hscenes⟩ := hrequest.run id hstart
    exact hscenes.agree hresult
  · have hread : v.Programs (s.requestAs r read) (s.requestAs r read) :=
      hrequest.bind fun _ => .done _
    obtain ⟨hresult, hscenes⟩ := hread.run id hstart
    exact hscenes.agree hresult

/-- The theorem where an attempt is refused, the refresh credential is exchanged and the retry is
answered, for two refresh credentials and for two access credentials. -/
theorem request_conceals_of_renewal :
    let s := Script.session { scheme := "http", path := .segments [] } {} true
    let r : Request := { query := "query" }
    let m := MemoryStore.ofValues [("accessToken", "a"), ("refreshToken", "r")] .least
    let m₁ := m.set .least "refreshToken" ⟨"other"⟩ defaultTtl
    let m₂ := m.set .least "accessToken" ⟨"other"⟩ defaultTtl
    let run (m : MemoryStore) :=
      (s.request r).alone Endpoint.scripted.scenes 0 ⟨renewingWorld m, []⟩
    (Veil.ofRefresh {} ⟨"r"⟩ ⟨"other"⟩).Agree (run m) (run m₁) ∧
      (Veil.ofAccess {} ⟨"a"⟩ ⟨"other"⟩).Agree (run m) (run m₂) ∧
      (run m).1.isOk = true ∧ (run m).2.outward.length = 3 := by
  intro s r m m₁ m₂ run
  have refreshes : (Veil.ofRefresh {} ⟨"r"⟩ ⟨"other"⟩).Stores m m₁ := .of_set (by decide +kernel)
  have accesses : (Veil.ofAccess {} ⟨"a"⟩ ⟨"other"⟩).Stores m m₂ := .of_set (by decide +kernel)
  exact ⟨(request_conceals _ {} true (by decide) r 0 rfl rfl _ _ (.inl rfl) refreshes).1,
    (request_conceals _ {} true (by decide) r 0 rfl rfl _ _ (.inr rfl) accesses).1,
    by decide +kernel, by decide +kernel⟩

end BearerSession
