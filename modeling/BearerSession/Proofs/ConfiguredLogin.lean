import BearerSession.Proofs.ConfigLoading
import BearerSession.Proofs.HeldEntries
import BearerSession.Proofs.LoneRuns
import BearerSession.Proofs.MutationMessage
import BearerSession.Proofs.MutationReply
import BearerSession.Proofs.StoreRecord

namespace BearerSession

open GraphQL (Envelope Request RequestError TransportError)

/-- A scene over a working store of any kind, before the next call of it, and what others have
seen. -/
structure Scene.Stands (s : Scene) (clock : Nat → Instant) (reads : Nat) (store : AnyStore)
    (machine : Machine) (out : List Outward) : Prop where
  shelf : s.world.shelf = (clock, reads, store, machine, [])
  outward : s.outward = out

namespace Scene.Stands

variable {s : Scene} {clock : Nat → Instant} {n : Nat} {store : AnyStore} {machine : Machine}
  {out : List Outward}

theorem world (h : s.Stands clock n store machine out) :
    s.world.clock = clock ∧ s.world.reads = n ∧ s.world.store = store ∧ s.world.machine = machine ∧
      s.world.faults = [] := by
  simpa only [World.shelf, Prod.mk.injEq] using h.shelf

theorem of_reliable (reliable : s.world.faults = []) :
    s.Stands s.world.clock s.world.reads s.world.store s.world.machine s.outward :=
  ⟨by rw [World.shelf, reliable], rfl⟩

end Scene.Stands

section Calls

variable (e : Endpoint) (id : Nat) {α β : Type} {n : Nat} {s : Scene} {clock : Nat → Instant}
  {store store' : AnyStore} {machine machine' : Machine} {out : List Outward} {key : String}

theorem outward_prefix (p : Script α) (s : Scene) :
    s.outward <+: (p.alone e.scenes id s).2.outward := by
  obtain ⟨later, hlater⟩ := (Program.meets_end e.scenes id p s).suffix
  refine ⟨later.reverse.filterMap Moment.outward?, ?_⟩
  unfold Scene.outward
  rw [← hlater, List.reverse_append, List.filterMap_append]

/-- What is seen of the beginning of a program is seen of the whole of it. -/
theorem outward_bind (p : Script α) (f : α → Script β) (s : Scene) :
    (p.alone e.scenes id s).2.outward <+: ((p >>= f).alone e.scenes id s).2.outward := by
  rw [Program.alone_bind]
  exact outward_prefix e id _ _

theorem stands_quiet (h : s.Stands clock n store machine out) (c : Call) (hc : c.storeOp? = none) :
    ∃ answer s', (Script.ask c).alone e.scenes id s = (answer, s') ∧
      s'.Stands clock n store machine (out ++ (Moment.mk id c answer).outward?.toList) := by
  refine ⟨_, _, alone_call e id c s, (e.react_shelf id hc s.world).trans h.shelf, ?_⟩
  rw [outward_cons, ← h.outward]
  rfl

theorem stands_send (h : s.Stands clock n store machine out) (destination : Url)
    (message : GraphQL.Outgoing) :
    ∃ answer s', (Script.transport.send destination message).alone e.scenes id s = (answer, s') ∧
      s'.Stands clock n store machine (out ++ [.sent destination message answer]) :=
  stands_quiet e id h (.send destination message) rfl

theorem stands_log (h : s.Stands clock n store machine out) (line : LogLine) :
    ∃ s', (Script.log.write line).alone e.scenes id s = ((), s') ∧
      s'.Stands clock n store machine out := by
  obtain ⟨⟨⟩, s', hcall, hs⟩ := stands_quiet e id h (.log line) rfl
  exact ⟨s', hcall, by simpa [Moment.outward?] using hs⟩

theorem stands_get (h : s.Stands clock n store machine out) (key : String) :
    let r := (AnyStore.calls (clock n)).get key (store, machine)
    ∃ s', (Script.store.get key).alone e.scenes id s = (r.1, s') ∧
      s'.Stands clock (n + 1) r.2.1 r.2.2 out := by
  obtain ⟨hclock, hreads, hstore, hmachine, hfaults⟩ := h.world
  obtain ⟨hanswer, hnext⟩ := World.get_shelf hfaults key
  rw [World.now, hclock, hreads, hstore, hmachine] at hanswer hnext
  refine ⟨⟨_, ⟨id, .get key, (s.world.get key).1⟩ :: s.past⟩, Prod.ext hanswer rfl, hnext, ?_⟩
  rw [outward_cons, ← h.outward]
  exact List.append_nil _

theorem stands_set (h : s.Stands clock n store machine out) (key : String) (value : Secret)
    (ttl : Span) :
    let r := (AnyStore.calls (clock n)).set key value ttl (store, machine)
    ∃ s', (Script.store.set key value ttl).alone e.scenes id s = (r.1, s') ∧
      s'.Stands clock (n + 1) r.2.1 r.2.2 out := by
  obtain ⟨hclock, hreads, hstore, hmachine, hfaults⟩ := h.world
  obtain ⟨hanswer, hnext⟩ := World.set_shelf hfaults key value ttl
  rw [World.now, hclock, hreads, hstore, hmachine] at hanswer hnext
  refine ⟨⟨_, ⟨id, .set key value ttl, (s.world.set key value ttl).1⟩ :: s.past⟩,
    Prod.ext hanswer rfl, hnext, ?_⟩
  rw [outward_cons, ← h.outward]
  exact List.append_nil _

theorem set_of_stored (h : s.Stands clock n store machine out) {s' : Scene} {value : Secret}
    {ttl : Span} (stored : (Script.store.set key value ttl).alone e.scenes id s = (.ok (), s')) :
    ∃ store' machine',
      (AnyStore.calls (clock n)).set key value ttl (store, machine) =
        (.ok (), store', machine') ∧
      s'.Stands clock (n + 1) store' machine' out := by
  obtain ⟨s₁, h₁, v₁⟩ := stands_set e id h key value ttl
  obtain ⟨hanswer, rfl⟩ := Prod.mk.inj (h₁.symm.trans stored)
  exact ⟨_, _, Prod.ext hanswer rfl, v₁⟩

/-- A pair that is stored has been written part by part, first the access credential. -/
theorem set_set_of_stored (h : s.Stands clock n store machine out) {s' : Scene}
    {keys : CredentialKeys} {pair : TokenPair} {ttl : Span}
    (stored : (Script.store.storePair keys pair ttl).alone e.scenes id s = (.ok (), s')) :
    ∃ store₁ machine₁ store₂ machine₂,
      (AnyStore.calls (clock n)).set keys.access pair.access ttl (store, machine) =
        (.ok (), store₁, machine₁) ∧
      (AnyStore.calls (clock (n + 1))).set keys.refresh pair.refresh ttl (store₁, machine₁) =
        (.ok (), store₂, machine₂) ∧
      s'.Stands clock (n + 2) store₂ machine₂ out := by
  unfold Store.storePair at stored
  rcases hfirst : (Script.store.set keys.access pair.access ttl).alone e.scenes id s with
    ⟨error | ⟨⟩, s₁⟩
  · cases (Program.alone_bind_of hfirst _).symm.trans stored
  · have hsecond := (Program.alone_bind_of hfirst _).symm.trans stored
    obtain ⟨store₁, machine₁, hset, v₁⟩ := set_of_stored e id h hfirst
    obtain ⟨store₂, machine₂, hset', v₂⟩ := set_of_stored e id v₁ hsecond
    exact ⟨store₁, machine₁, store₂, machine₂, hset, hset', v₂⟩

/-- A call of the gate is not seen from outside, and moves no store. -/
theorem stands_gate_call (h : s.Stands clock n store machine out) (c : Call)
    (hc : c.storeOp? = none) {r : Reaction c.Answer} {g : GateState}
    (hr : e.react id c s.world = (r, { s.world with gate := g }))
    (ho : (Moment.mk id c r.answer).outward? = none) :
    ∃ s', (Script.ask c).alone e.scenes id s = (r.answer, s') ∧ s'.world.gate = g ∧
      s'.Stands clock n store machine out := by
  refine ⟨⟨{ s.world with gate := g }, ⟨id, c, r.answer⟩ :: s.past⟩, ?_, rfl, ?_, ?_⟩
  · rw [alone_call, hr]
  · have hshelf := e.react_shelf id hc s.world
    rw [hr] at hshelf
    exact hshelf.trans h.shelf
  · rw [outward_cons, ho, ← h.outward]
    exact List.append_nil _

/-- Without rivals a gate makes the refresh, from a scene that looks the same. -/
theorem stands_gate_run (h : s.Stands clock n store machine out) (refresh : Script RefreshOutcome) :
    ∃ s₁, s₁.Stands clock n store machine out ∧
      (refresh.alone e.scenes id s₁).2.outward <+:
        ((Script.gate.run Script.log refresh).alone e.scenes id s).2.outward := by
  obtain ⟨s₁, h₁, g₁, v₁⟩ := stands_gate_call e id h .completed rfl rfl rfl
  obtain ⟨s₂, h₂, g₂, v₂⟩ := stands_gate_call e id v₁ .acquire rfl rfl rfl
  obtain ⟨s₃, h₃, g₃, v₃⟩ := stands_gate_call e id v₂ .completed rfl rfl rfl
  obtain ⟨s₄, h₄, g₄, v₄⟩ := stands_gate_call e id v₃ .last rfl rfl rfl
  have same : s₂.world.gate.completed = s.world.gate.completed := by rw [g₂, g₁]
  refine ⟨s₄, v₄, ?_⟩
  unfold Gate.run
  simp only [Script.gate]
  rw [Program.alone_bind_of h₁, Program.alone_bind_of h₂, Program.alone_bind_of h₃,
    Program.alone_bind_of h₄]
  simp only [Reaction.answer, same, Nat.lt_irrefl, if_false]
  exact outward_bind e id refresh _ s₄

end Calls

section Steps

variable (e : Endpoint) (id : Nat) {n : Nat} {s s' : Scene} {clock : Nat → Instant}
  {store : AnyStore} {machine : Machine} {out : List Outward} (destination : Url)
  (options : SessionOptions) (redirects : Bool)

theorem storePair_of_kept {email : String} {granted pair : TokenPair}
    (kept : ((Script.session destination options redirects).keepPair email granted).alone e.scenes
      id s = (.ok pair, s')) :
    granted = pair ∧ ∃ s₁,
      (Script.store.storePair options.keys granted options.ttl).alone e.scenes id s =
        (.ok (), s₁) ∧
      (Script.log.write ⟨.info, "Logged in as " ++ email⟩).alone e.scenes id s₁ = ((), s') := by
  unfold Session.keepPair at kept
  rcases hstored : (Script.store.storePair options.keys granted options.ttl).alone e.scenes id s
    with ⟨error | ⟨⟩, s₁⟩
  · cases (Program.alone_bind_of hstored _).symm.trans kept
  · have hlogged := (Program.alone_bind_of hstored _).symm.trans kept
    cases hlogged
    exact ⟨rfl, s₁, rfl, rfl⟩

/-- What a login that succeeds has done: it was granted the pair, and wrote both parts of it, first
the access credential. -/
theorem login_writes (h : s.Stands clock n store machine out) {email : String} {password : Secret}
    {pair : TokenPair}
    (loggedIn : ((Script.session destination options redirects).login email password).alone e.scenes
      id s = (.ok pair, s')) :
    ∃ answer store₁ machine₁ store₂ machine₂,
      loginGrant answer = .ok pair ∧
      (AnyStore.calls (clock n)).set options.keys.access pair.access options.ttl (store, machine) =
        (.ok (), store₁, machine₁) ∧
      (AnyStore.calls (clock (n + 1))).set options.keys.refresh pair.refresh options.ttl
        (store₁, machine₁) = (.ok (), store₂, machine₂) ∧
      s'.Stands clock (n + 2) store₂ machine₂
        (out ++ [.sent destination (loginRequest email password).outgoing answer]) := by
  rw [Session.login_eq] at loggedIn
  obtain ⟨answer, s₁, h₁, v₁⟩ :=
    stands_send e id h destination (loginRequest email password).outgoing
  have hsent := (Program.alone_bind_of h₁ _).symm.trans loggedIn
  cases hgrant : loginGrant answer with
  | error error =>
    rw [hgrant] at hsent
    cases hsent
  | ok granted =>
    rw [hgrant] at hsent
    obtain ⟨rfl, s₂, hstored, hlogged⟩ := storePair_of_kept e id destination options redirects hsent
    obtain ⟨store₁, machine₁, store₂, machine₂, haccess, hrefresh, v₂⟩ :=
      set_set_of_stored e id v₁ hstored
    obtain ⟨s₃, h₃, v₃⟩ := stands_log e id v₂ ⟨.info, "Logged in as " ++ email⟩
    cases hlogged.symm.trans h₃
    exact ⟨answer, store₁, machine₁, store₂, machine₂, hgrant, haccess, hrefresh, v₃⟩

/-- A refresh that finds its credential begins with the exchange of it. -/
theorem refresh_exchanges (h : s.Stands clock n store machine out) {token : Secret}
    (held : ((AnyStore.calls (clock n)).get options.keys.refresh (store, machine)).1 =
      .ok (some token)) :
    ∃ exchanged, out ++ [.sent destination (refreshRequest token).outgoing exchanged] <+:
      ((Script.session destination options redirects).refreshOutcome.alone e.scenes id s).2.outward := by
  obtain ⟨s₁, h₁, v₁⟩ := stands_get e id h options.keys.refresh
  rw [held] at h₁
  obtain ⟨s₂, h₂, v₂⟩ := stands_log e id v₁
    ⟨.debug, "Exchanging refresh token for a new access token"⟩
  obtain ⟨exchanged, s₃, h₃, v₃⟩ := stands_send e id v₂ destination (refreshRequest token).outgoing
  refine ⟨exchanged, ?_⟩
  have hrefresh : s₃.outward <+:
      ((Script.session destination options redirects).refresh.alone e.scenes id s).2.outward := by
    have hread : (Script.session destination options redirects).refresh.alone e.scenes id s = _ :=
      (congrArg (fun p : Script _ => p.alone e.scenes id s) (Session.refresh_eq _)).trans
        (Program.alone_bind_of h₁ _)
    have hlogged := hread.trans (Program.alone_bind_of h₂ _)
    rw [hlogged.trans (Program.alone_bind_of h₃ _)]
    exact outward_prefix e id _ s₃
  rw [v₃.outward] at hrefresh
  exact hrefresh.trans (outward_bind e id _ _ s)

/-- With or without a gate, recovery begins with the refresh. -/
theorem recover_exchanges (h : s.Stands clock n store machine out) {token : Secret}
    (held : ((AnyStore.calls (clock n)).get options.keys.refresh (store, machine)).1 =
      .ok (some token)) :
    ∃ exchanged, out ++ [.sent destination (refreshRequest token).outgoing exchanged] <+:
      ((Script.session destination options redirects).recover.alone e.scenes id s).2.outward := by
  rw [Session.recover_eq]
  cases options.singleFlight with
  | false =>
    obtain ⟨exchanged, hseen⟩ := refresh_exchanges e id destination options redirects h held
    exact ⟨exchanged, hseen.trans (outward_bind e id _ _ s)⟩
  | true =>
    obtain ⟨s₁, v₁, hrun⟩ := stands_gate_run e id h
      (Script.session destination options redirects).refreshOutcome
    obtain ⟨exchanged, hseen⟩ := refresh_exchanges e id destination options redirects v₁ held
    exact ⟨exchanged, (hseen.trans hrun).trans (outward_bind e id _ _ s)⟩

/-- An attempt carries the access credential that it finds. -/
theorem attempt_carries (h : s.Stands clock n store machine out) (r : Request) (kind : Attempt)
    {access : Secret}
    (held : (AnyStore.calls (clock n)).get options.keys.access (store, machine) =
      (.ok (some access), store, machine)) :
    ∃ answer s', ((Script.session destination options redirects).attempt r kind).alone e.scenes id s =
        (received answer, s') ∧
      s'.Stands clock (n + 1) store machine
        (out ++ [.sent destination (attemptMessage r (bearer access)) answer]) := by
  obtain ⟨s₁, h₁, v₁⟩ := stands_get e id h options.keys.access
  rw [held] at h₁ v₁
  obtain ⟨s₂, h₂, v₂⟩ := stands_log e id v₁ ⟨.debug, "Sending " ++ kind.name ++ " attempt to " ++
    destination.href ++ " (authorized: " ++
    (if (bearer access).isEmpty then "false" else "true") ++ ")"⟩
  obtain ⟨answer, s₃, h₃, v₃⟩ := stands_send e id v₂ destination (attemptMessage r (bearer access))
  refine ⟨answer, s₃, ?_, v₃⟩
  rw [Session.attempt_eq]
  exact (Program.alone_bind_of h₁ _).trans ((Program.alone_bind_of h₂ _).trans
    (Program.alone_bind_of h₃ _))

/-- A request that finds both credentials carries the one, and if it is refused exchanges the
other. -/
theorem request_exchanges (h : s.Stands clock n store machine out) (r : Request)
    {access token : Secret}
    (found : (AnyStore.calls (clock n)).get options.keys.access (store, machine) =
      (.ok (some access), store, machine))
    (held : ((AnyStore.calls (clock (n + 1))).get options.keys.refresh (store, machine)).1 =
      .ok (some token)) :
    ∃ answer, let seen := (((Script.session destination options redirects).request r).alone e.scenes
        id s).2.outward
      let primary : Outward := .sent destination (attemptMessage r (bearer access)) answer
      if isRefused answer then
        ∃ exchanged,
          out ++ [primary, .sent destination (refreshRequest token).outgoing exchanged] <+: seen
      else seen = out ++ [primary] := by
  obtain ⟨answer, s₁, h₁, v₁⟩ := attempt_carries e id destination options redirects h r .primary found
  refine ⟨answer, ?_⟩
  cases hr : isRefused answer with
  | false =>
    rw [alone_request_direct e id destination options redirects r h₁ hr]
    exact v₁.outward
  | true =>
    obtain ⟨line, hreq⟩ := alone_request_refused e id destination options redirects r h₁ hr
    obtain ⟨s₂, h₂, v₂⟩ := stands_log e id v₁ line
    obtain ⟨exchanged, hseen⟩ := recover_exchanges e id destination options redirects v₂ held
    refine ⟨exchanged, ?_⟩
    rw [List.append_assoc] at hseen
    rw [hreq, Program.alone_bind_of h₂]
    exact hseen.trans (outward_bind e id _ _ s₂)

end Steps

def oneDay : Span := ⟨86400000000000, by decide, by decide⟩

namespace Config

variable {defaults : Settings} {disk : Disk} {path : String} {c : Config}

theorem oneDay_le_ttl (h : load defaults disk path = .ok c) : oneDay.nanos ≤ c.ttl.nanos := by
  have hday : oneDay.nanos = 86400000000000 := rfl
  obtain ⟨-, -, -, httl⟩ := load_eq_ok_iff.mp h
  obtain ⟨hdays, hnanos⟩ := ttlOfDays_eq_ok_iff.mp httl
  omega

end Config

/-- A session as an accepted configuration asks for it logs in, over a store of any kind whose calls
do not fail. As long as the writes have not lapsed, which takes a day at least, the refresh key then
reads the refresh credential of the pair. The access key reads its access credential, unless the
configuration gives both credentials one key: then it reads the refresh credential. A request that
follows carries what the access key reads, and if it is refused sends the refresh credential of the
pair to be exchanged. -/
theorem configured_login_stores_pair {defaults : Settings} {disk : Disk} {path : String} {c : Config}
    (loaded : Config.load defaults disk path = .ok c) (e : Endpoint) (id : Nat) (redirects : Bool)
    {s s' : Scene} {email : String} {password : Secret} {pair : TokenPair}
    (reliable : s.world.faults = []) (permitted : s.world.machine.vault.faults = [])
    (soon : ∀ i < 2, ∀ j < 4, s.world.clock (s.world.reads + j) <
      (s.world.clock (s.world.reads + i)).plus oneDay)
    (loggedIn : ((Script.session c.endpoint c.options redirects).login email password).alone e.scenes
      id s = (.ok pair, s')) :
    let keys := c.settings.keys
    let horizon i := (s.world.clock (s.world.reads + i)).plus c.ttl
    let access := if keys.access = keys.refresh then pair.refresh else pair.access
    let exchange := (refreshRequest pair.refresh).outgoing
    (∀ t, t < horizon 0 → t < horizon 1 →
      ((AnyStore.calls t).get keys.access (s'.world.store, s'.world.machine)).1 =
          .ok (some access) ∧
        ((AnyStore.calls t).get keys.refresh (s'.world.store, s'.world.machine)).1 =
          .ok (some pair.refresh)) ∧
    IsExchange exchange pair.refresh ∧
    ∀ r, ∃ answer,
      let seen := (((Script.session c.endpoint c.options redirects).request r).alone e.scenes
        id s').2.outward
      let primary : Outward := .sent c.endpoint (attemptMessage r (bearer access)) answer
      if isRefused answer then
        ∃ exchanged, s'.outward ++ [primary, .sent c.endpoint exchange exchanged] <+: seen
      else seen = s'.outward ++ [primary] := by
  intro keys horizon access exchange
  have hlives {i j : Nat} (hi : i < 2) (hj : j < 4) :
      s.world.clock (s.world.reads + j) < horizon i :=
    Instant.lt_of_lt_of_not_lt (soon i hi j hj)
      (Instant.plus_mono _ (by decide) (Config.oneDay_le_ttl loaded))
  obtain ⟨answer, store₁, machine₁, store₂, machine₂, -, haccess, hrefresh, hstands⟩ :=
    login_writes e id c.endpoint c.options redirects (.of_reliable reliable) loggedIn
  have hreads {t : Instant} (h₀ : t < horizon 0) (h₁ : t < horizon 1) :
      (AnyStore.calls t).get keys.access (store₂, machine₂) =
          (.ok (some access), store₂, machine₂) ∧
        (AnyStore.calls t).get keys.refresh (store₂, machine₂) =
          (.ok (some pair.refresh), store₂, machine₂) := by
    have hwritten : s.world.clock s.world.reads < horizon 0 :=
      hlives (i := 0) (j := 0) (by decide) (by decide)
    have hrewritten : s.world.clock (s.world.reads + 1) < horizon 1 :=
      hlives (i := 1) (j := 1) (by decide) (by decide)
    have hkept : s.world.clock (s.world.reads + 1) < horizon 0 :=
      hlives (i := 0) (j := 1) (by decide) (by decide)
    exact AnyStore.get_of_set_set permitted haccess hrefresh hwritten hrewritten hkept h₀ h₁
  obtain ⟨-, -, hstore, hmachine, -⟩ := hstands.world
  rw [hstore, hmachine, hstands.outward]
  refine ⟨fun t h₀ h₁ => ?_, isExchange_outgoing pair.refresh, fun r => ?_⟩
  · obtain ⟨hfirst, hsecond⟩ := hreads h₀ h₁
    exact ⟨congrArg Prod.fst hfirst, congrArg Prod.fst hsecond⟩
  · have hnext := hreads (hlives (i := 0) (j := 2) (by decide) (by decide))
      (hlives (i := 1) (j := 2) (by decide) (by decide))
    have hlast := hreads (hlives (i := 0) (j := 3) (by decide) (by decide))
      (hlives (i := 1) (j := 3) (by decide) (by decide))
    exact request_exchanges e id c.endpoint c.options redirects hstands r hnext.1
      (congrArg Prod.fst hlast.2)

/-- An endpoint that grants credentials to whoever comes before the first call of the store, and
refuses everybody who comes later. -/
def loginEndpoint : Endpoint where
  outcome w :=
    if w.reads = 0 then
      .ok (.ofData (.object [("login",
        .object [("accessToken", .string "a"), ("refreshToken", .string "r")])]))
    else .ok (.ofErrors [.ofMessage "Invalid token"])
  delay _ := 0
  left w := w.replies

/-- A login over an empty store in memory. -/
def grantedLogin (destination : Url) (options : SessionOptions) :
    Except LoginError TokenPair × Scene :=
  ((Script.session destination options false).login "user" ⟨"secret"⟩).alone
    loginEndpoint.scenes 0 ⟨stillWorld {} .least, []⟩

theorem exists_config {α : Type} {defaults : Settings} {disk : Disk} {path : String}
    {f : Config → α} {a : α} (h : (Config.load defaults disk path).toOption.map f = some a) :
    ∃ c, Config.load defaults disk path = .ok c ∧ f c = a := by
  obtain ⟨c, hc, ha⟩ := Option.map_eq_some_iff.mp h
  exact ⟨c, Json.toOption_eq_some_iff.mp hc, ha⟩

/-- The endpoint that is configured by default. -/
def localEndpoint : Url where
  scheme := "http"
  authority := some { host := "localhost", port := some 4000 }
  path := .segments ["graphql"]

/-- The theorem at the defaults: there is no configuration file. A request that follows the login is
refused, and its exchange is of the refresh credential. -/
theorem configured_login_stores_pair_of_defaults :
    let r : Request := { query := "query" }
    ∃ c s' exchange, Config.load { jarPath := "jar.json" } (.blank []) "client.toml" = .ok c ∧
      c.options = {} ∧
      grantedLogin c.endpoint c.options = (.ok ⟨⟨"a"⟩, ⟨"r"⟩, "Bearer"⟩, s') ∧
      ((AnyStore.calls .least).get "accessToken" (s'.world.store, s'.world.machine)).1 =
        .ok (some ⟨"a"⟩) ∧
      ((AnyStore.calls .least).get "refreshToken" (s'.world.store, s'.world.machine)).1 =
        .ok (some ⟨"r"⟩) ∧
      IsExchange exchange ⟨"r"⟩ ∧
      ∃ refusal exchanged, isRefused refusal = true ∧ s'.outward ++
        [.sent c.endpoint (attemptMessage r (bearer ⟨"a"⟩)) refusal,
          .sent c.endpoint exchange exchanged] <+:
        (((Script.session c.endpoint c.options false).request r).alone loginEndpoint.scenes 0
          s').2.outward := by
  intro r
  have hdefaults : (Config.load { jarPath := "jar.json" } (.blank []) "client.toml").toOption.map
      (fun c => (c.endpoint, c.options)) = some (localEndpoint, {}) := by decide +kernel
  obtain ⟨c, hloaded, hc⟩ := exists_config hdefaults
  obtain ⟨hendpoint, hoptions⟩ := Prod.mk.inj hc
  have hlogin : grantedLogin c.endpoint c.options =
      (.ok ⟨⟨"a"⟩, ⟨"r"⟩, "Bearer"⟩, (grantedLogin c.endpoint c.options).2) := rfl
  have hkeys : c.settings.keys = {} := congrArg SessionOptions.keys hoptions
  have hday : Instant.least < Instant.least.plus oneDay := by decide
  have hlives : Instant.least < Instant.least.plus c.ttl :=
    Instant.lt_of_lt_of_not_lt hday (Instant.plus_mono _ (by decide) (Config.oneDay_le_ttl hloaded))
  obtain ⟨hreads, hexchange, hnext⟩ :=
    configured_login_stores_pair hloaded loginEndpoint 0 false rfl rfl (fun _ _ _ _ => hday) hlogin
  obtain ⟨haccess, hrefresh⟩ := hreads .least hlives hlives
  rw [hkeys] at haccess hrefresh
  obtain ⟨refusal, hseen⟩ := hnext r
  refine ⟨c, _, _, hloaded, hoptions, hlogin, haccess, hrefresh, hexchange, refusal, ?_⟩
  have hmessages : (((Script.session c.endpoint c.options false).request r).alone
      loginEndpoint.scenes 0 (grantedLogin c.endpoint c.options).2).2.outward.length = 4 := by
    rw [hendpoint, hoptions]
    decide +kernel
  cases hrefused : isRefused refusal with
  | true =>
    simp only [hrefused, if_true, hkeys] at hseen
    obtain ⟨exchanged, hseen⟩ := hseen
    exact ⟨exchanged, rfl, hseen⟩
  | false =>
    simp only [hrefused, Bool.false_eq_true, if_false] at hseen
    have hlogged : (grantedLogin c.endpoint c.options).2.outward.length = 1 := rfl
    simp [hseen, hlogged] at hmessages

def sharedKeyDisk : Disk :=
  (Disk.blank []).put ["client.toml"]
    (.file (.text "access_key = \"token\"\nrefresh_key = \"token\"\n") 0o644)

/-- A configuration with one key for both credentials is accepted, and after a login the access key
reads the refresh credential. -/
theorem shared_key_reads_refresh_credential :
    ∃ c s', Config.load { jarPath := "jar.json" } sharedKeyDisk "client.toml" = .ok c ∧
      grantedLogin c.endpoint c.options = (.ok ⟨⟨"a"⟩, ⟨"r"⟩, "Bearer"⟩, s') ∧
      ((AnyStore.calls .least).get c.settings.keys.access (s'.world.store, s'.world.machine)).1 =
        .ok (some ⟨"r"⟩) := by
  have hread : (Config.load { jarPath := "jar.json" } sharedKeyDisk "client.toml").toOption.map
      (·.options) = some { keys := ⟨"token", "token"⟩ } := by decide +kernel
  obtain ⟨c, hloaded, hoptions⟩ := exists_config hread
  have hkeys : c.settings.keys = ⟨"token", "token"⟩ := congrArg SessionOptions.keys hoptions
  let m : MemoryStore :=
    (MemoryStore.set {} .least "token" ⟨"a"⟩ defaultTtl).set .least "token" ⟨"r"⟩ defaultTtl
  have hvalue : m.get .least "token" = some ⟨"r"⟩ := by decide +kernel
  refine ⟨c, _, hloaded, rfl, ?_⟩
  rw [hkeys, hoptions]
  exact congrArg Except.ok hvalue

end BearerSession
