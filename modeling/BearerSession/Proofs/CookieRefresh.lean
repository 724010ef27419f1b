import BearerSession.Proofs.CookieCalls
import BearerSession.Proofs.CookieHeader
import BearerSession.Proofs.StoreRecord

namespace BearerSession

/-- A scene over a working jar of cookies, before the next call of the store. -/
def Scene.HasJar (s : Scene) (clock : Nat → Instant) (reads : Nat) (jar : RequestJar)
    (machine : Machine) : Prop :=
  s.world.shelf = (clock, reads, .request jar, machine, [])

namespace RequestJar

variable {header : Option String} {jar : RequestJar} {key : String} {value : Secret}
  {now : Instant} {ttl : Span}

theorem carries_set (hkey : isToken key = true) (value : Secret) (ttl : Span) :
    carries (.set key value ttl) = value.expose.toList.all isOctet := by
  rw [carries, hkey, Bool.true_and]

theorem set_of_carries (jar : RequestJar) (now : Instant)
    (h : carries (.set key value ttl) = true) :
    jar.set now key value ttl = .ok (jar.tell now (.set key value ttl)) := if_pos h

theorem set_of_not_carries (jar : RequestJar) (now : Instant)
    (h : carries (.set key value ttl) = false) :
    jar.set now key value ttl = .error (.invalidValue key) := if_neg (Bool.eq_false_iff.mp h)

theorem get_tell_set (jar : RequestJar) (now t : Instant) (key key' : String) (value : Secret)
    (ttl : Span) :
    (jar.tell now (.set key value ttl)).get t key' =
      if key' = key then if t < now.plus ttl then some value else none else jar.get t key' := by
  unfold get
  rw [get?_cookies_tell]
  by_cases hk : key' = key
  · subst hk
    by_cases ht : t < now.plus ttl <;>
      simp [StoreOp.writes, cookieOf, Option.filter, Cookie.isLive, ht]
  · have hother : (StoreOp.set key value ttl).writes key' = false := by
      simp [StoreOp.writes, Ne.symm hk]
    rw [hother, if_neg hk]
    rfl

/-- A cookie that came with the request does not die. -/
theorem expiresAt_of_ofHeader (h : jar.cookies = (ofHeader header).cookies) {c : Cookie}
    (hc : jar.cookies.get? key = some c) : c.expiresAt = none := by
  rw [h] at hc
  cases header with
  | none => cases hc
  | some header =>
    unfold ofHeader at hc
    dsimp only at hc
    have hmap := SortedMap.get?_ofList_map (fun value : String => (⟨⟨value⟩, none⟩ : Cookie))
      ((splitAll ';' header.toList).filterMap readPair?) key
    rw [hmap] at hc
    obtain ⟨value, -, rfl⟩ := Option.map_eq_some_iff.mp hc
    rfl

theorem get_of_ofHeader (h : jar.cookies = (ofHeader header).cookies) (t now : Instant)
    (key : String) : jar.get t key = jar.get now key := by
  unfold get
  cases hc : jar.cookies.get? key with
  | none => rfl
  | some c =>
    have hexpires := expiresAt_of_ofHeader h hc
    simp [Option.filter, Cookie.isLive, hexpires]

end RequestJar

section Calls

variable (e : Endpoint) (id : Nat) {s : Scene} {clock : Nat → Instant} {n : Nat} {jar : RequestJar}
  {machine : Machine} {key : String} {value : Secret} {ttl : Span}

theorem jar_get (h : s.HasJar clock n jar machine) (key : String) :
    ∃ s', (Script.store.get key).alone e.scenes id s = (.ok (jar.get (clock n) key), s') ∧
      s'.HasJar clock (n + 1) jar machine := by
  unfold Scene.HasJar World.shelf at h
  simp only [Prod.mk.injEq] at h
  obtain ⟨hclock, hreads, hstore, hmachine, hfaults⟩ := h
  obtain ⟨hanswer, hnext⟩ := World.get_shelf hfaults key
  rw [World.now, hclock, hreads, hstore, hmachine] at hanswer hnext
  refine ⟨⟨(s.world.get key).2, ⟨id, .get key, (s.world.get key).1⟩ :: s.past⟩, ?_, hnext⟩
  exact Prod.ext hanswer rfl

/-- A write, whether or not a cookie can carry it. -/
theorem jar_set_any (h : s.HasJar clock n jar machine) (key : String) (value : Secret)
    (ttl : Span) :
    let r := (AnyStore.calls (clock n)).set key value ttl (.request jar, machine)
    ∃ s', (Script.store.set key value ttl).alone e.scenes id s = (r.1, s') ∧
      s'.world.shelf = (clock, n + 1, r.2.1, r.2.2, []) := by
  unfold Scene.HasJar World.shelf at h
  simp only [Prod.mk.injEq] at h
  obtain ⟨hclock, hreads, hstore, hmachine, hfaults⟩ := h
  obtain ⟨hanswer, hnext⟩ := World.set_shelf hfaults key value ttl
  rw [World.now, hclock, hreads, hstore, hmachine] at hanswer hnext
  exact ⟨⟨_, ⟨id, .set key value ttl, (s.world.set key value ttl).1⟩ :: s.past⟩,
    Prod.ext hanswer rfl, hnext⟩

theorem jar_set (h : s.HasJar clock n jar machine)
    (hc : RequestJar.carries (.set key value ttl) = true) :
    ∃ s', (Script.store.set key value ttl).alone e.scenes id s = (.ok (), s') ∧
      s'.HasJar clock (n + 1) (jar.tell (clock n) (.set key value ttl)) machine := by
  obtain ⟨s', hrun, hshelf⟩ := jar_set_any e id h key value ttl
  simp only [AnyStore.calls, AnyStore.set, RequestJar.set_of_carries jar _ hc] at hrun hshelf
  exact ⟨s', hrun, hshelf⟩

theorem jar_set_rejected (h : s.HasJar clock n jar machine)
    (hc : RequestJar.carries (.set key value ttl) = false) :
    ∃ s', (Script.store.set key value ttl).alone e.scenes id s =
        (.error (.invalidValue key), s') ∧
      s'.HasJar clock (n + 1) jar machine := by
  obtain ⟨s', hrun, hshelf⟩ := jar_set_any e id h key value ttl
  simp only [AnyStore.calls, AnyStore.set, RequestJar.set_of_not_carries jar _ hc] at hrun hshelf
  exact ⟨s', hrun, hshelf⟩

theorem jar_log (h : s.HasJar clock n jar machine) (line : LogLine) :
    ∃ s', (Script.log.write line).alone e.scenes id s = ((), s') ∧
      s'.HasJar clock n jar machine :=
  ⟨⟨s.world.write line, ⟨id, .log line, ()⟩ :: s.past⟩, rfl, (s.world.write_shelf line).trans h⟩

/-- A granted refresh writes the access credential, and again the refresh credential that it read if
a cookie can carry this one. Otherwise it fails with the access credential written. -/
theorem jar_refresh {exchange : Secret → Script (Except RefreshError AccessGrant)}
    {keys : CredentialKeys} {token : Secret} {grant : AccessGrant}
    (h : s.HasJar clock n jar machine) (held : jar.get (clock n) keys.refresh = some token)
    (granted : ∀ s : Scene, ∃ s', (exchange token).alone e.scenes id s = (.ok grant, s') ∧
      s'.world.shelf = s.world.shelf)
    (hc : RequestJar.carries (.set keys.access grant.access ttl) = true) :
    let told := jar.tell (clock (n + 1)) (.set keys.access grant.access ttl)
    ∃ s', if RequestJar.carries (.set keys.refresh token ttl) then
        (refresh exchange Script.store Script.log keys ttl).alone e.scenes id s =
            (.ok grant, s') ∧
          s'.HasJar clock (n + 3) (told.tell (clock (n + 2)) (.set keys.refresh token ttl)) machine
      else
        (refresh exchange Script.store Script.log keys ttl).alone e.scenes id s =
            (.error (.store (.invalidValue keys.refresh)), s') ∧
          s'.HasJar clock (n + 3) told machine := by
  intro told
  obtain ⟨s₁, h₁, v₁⟩ := jar_get e id h keys.refresh
  obtain ⟨s₂, h₂, v₂⟩ := jar_log e id v₁ ⟨.debug, "Exchanging refresh token for a new access token"⟩
  obtain ⟨s₃, h₃, hsame⟩ := granted s₂
  have v₃ : s₃.HasJar clock (n + 1) jar machine := hsame.trans v₂
  obtain ⟨s₄, h₄, v₄⟩ := jar_set e id v₃ hc
  rw [held] at h₁
  have hfirst : (refresh exchange Script.store Script.log keys ttl).alone e.scenes id s = _ :=
    (Program.alone_bind_of h₁ _).trans ((Program.alone_bind_of h₂ _).trans
      ((Program.alone_bind_of h₃ _).trans (Program.alone_bind_of h₄ _)))
  rw [hfirst]
  cases hcarries : RequestJar.carries (.set keys.refresh token ttl) with
  | true =>
    obtain ⟨s₅, h₅, v₅⟩ := jar_set e id v₄ hcarries
    obtain ⟨s₆, h₆, v₆⟩ := jar_log e id v₅ ⟨.info, "Refreshed access token"⟩
    exact ⟨s₆, (Program.alone_bind_of h₅ _).trans (Program.alone_bind_of h₆ _), v₆⟩
  | false =>
    obtain ⟨s₅, h₅, v₅⟩ := jar_set_rejected e id v₄ hcarries
    exact ⟨s₅, Program.alone_bind_of h₅ _, v₅⟩

end Calls

/-- A refresh over the cookies of any request. It writes a granted access credential. If the
refresh credential is one that a cookie can carry, the refresh succeeds, and both live for the whole
span from their writes. Otherwise it fails, for the refresh credential cannot be written again, and
this one stays as it came with the request. -/
theorem refresh_ofHeader (header : Option String) (keys : CredentialKeys) (ttl : Span)
    (distinct : keys.access ≠ keys.refresh) (haccess : isToken keys.access = true)
    (hrefresh : isToken keys.refresh = true) (e : Endpoint) (id : Nat) {s : Scene}
    {jar : RequestJar} {token : Secret} {grant : AccessGrant}
    {exchange : Secret → Script (Except RefreshError AccessGrant)}
    (seeded : s.world.store = .request jar)
    (cookies : jar.cookies = (RequestJar.ofHeader header).cookies) (reliable : s.world.faults = [])
    (held : jar.get s.world.now keys.refresh = some token)
    (granted : ∀ s : Scene, ∃ s', (exchange token).alone e.scenes id s = (.ok grant, s') ∧
      s'.world.shelf = s.world.shelf)
    (octets : grant.access.expose.toList.all RequestJar.isOctet = true) :
    let (result, s') := (refresh exchange Script.store Script.log keys ttl).alone e.scenes id s
    let time n := s.world.clock (s.world.reads + n)
    ∃ jar', s'.world.store = .request jar' ∧
      (∀ t, jar'.get t keys.access =
        if t < (time 1).plus ttl then some grant.access else none) ∧
      (∀ t key, key ≠ keys.access → key ≠ keys.refresh → jar'.get t key = jar.get t key) ∧
      if token.expose.toList.all RequestJar.isOctet then
        result = .ok grant ∧
          ∀ t, jar'.get t keys.refresh = if t < (time 2).plus ttl then some token else none
      else
        result = .error (.store (.invalidValue keys.refresh)) ∧
          ∀ t, jar'.get t keys.refresh = some token := by
  have hjar : s.HasJar s.world.clock s.world.reads jar s.world.machine := by
    unfold Scene.HasJar World.shelf
    rw [seeded, reliable]
  have hc : RequestJar.carries (.set keys.access grant.access ttl) = true :=
    (RequestJar.carries_set haccess _ _).trans octets
  obtain ⟨s', hrun⟩ := jar_refresh e id hjar held granted hc
  rw [RequestJar.carries_set hrefresh] at hrun
  cases hoctets : token.expose.toList.all RequestJar.isOctet with
  | true =>
    rw [hoctets, if_pos rfl] at hrun
    obtain ⟨hrun, hshelf⟩ := hrun
    rw [hrun]
    refine ⟨_, congrArg (·.2.2.1) hshelf, fun t => ?_, fun t key ha hr => ?_, ?_⟩
    · rw [RequestJar.get_tell_set, if_neg distinct, RequestJar.get_tell_set, if_pos rfl]
    · rw [RequestJar.get_tell_set, if_neg hr, RequestJar.get_tell_set, if_neg ha]
    · rw [if_pos rfl]
      exact ⟨rfl, fun t => by rw [RequestJar.get_tell_set, if_pos rfl]⟩
  | false =>
    rw [hoctets, if_neg Bool.false_ne_true] at hrun
    obtain ⟨hrun, hshelf⟩ := hrun
    rw [hrun]
    refine ⟨_, congrArg (·.2.2.1) hshelf, fun t => ?_, fun t key ha _ => ?_, ?_⟩
    · rw [RequestJar.get_tell_set, if_pos rfl]
    · rw [RequestJar.get_tell_set, if_neg ha]
    · rw [if_neg Bool.false_ne_true]
      refine ⟨rfl, fun t => ?_⟩
      rw [RequestJar.get_tell_set, if_neg (Ne.symm distinct)]
      exact (RequestJar.get_of_ofHeader cookies t s.world.now keys.refresh).trans held

def cookieWorld (header : String) : World :=
  { clock := fun _ => .least
    store := .request (.ofHeader (some header))
    machine := ⟨Disk.blank [], {}⟩ }

/-- An exchange that is noted and always granted. -/
def notedExchange (token : Secret) : Script (Except RefreshError AccessGrant) := do
  Script.note (.exchange token)
  return .ok ⟨⟨"renewed"⟩, defaultTokenType⟩

/-- The theorem where the cookie is one that can be written again. -/
theorem refresh_ofHeader_of_octets :
    let jar := RequestJar.ofHeader (some "theme=dark; refreshToken=r")
    let (result, s') := (refresh notedExchange Script.store Script.log {} defaultTtl).alone
      Endpoint.scripted.scenes 0 ⟨cookieWorld "theme=dark; refreshToken=r", []⟩
    jar.get .least "refreshToken" = some ⟨"r"⟩ ∧ result = .ok ⟨⟨"renewed"⟩, "Bearer"⟩ ∧
      ∃ jar', s'.world.store = .request jar' ∧
        jar'.get .least "accessToken" = some ⟨"renewed"⟩ ∧
        jar'.get .least "refreshToken" = some ⟨"r"⟩ ∧
        jar'.get .least "theme" = some ⟨"dark"⟩ := by
  intro jar
  have held : jar.get .least "refreshToken" = some ⟨"r"⟩ := by decide +kernel
  have granted : ∀ s : Scene, ∃ s', (notedExchange ⟨"r"⟩).alone Endpoint.scripted.scenes 0 s =
      (.ok ⟨⟨"renewed"⟩, defaultTokenType⟩, s') ∧ s'.world.shelf = s.world.shelf :=
    fun s => ⟨_, rfl, rfl⟩
  obtain ⟨jar', hstore, haccess, hother, hresult, hrefresh⟩ :=
    refresh_ofHeader (some "theme=dark; refreshToken=r") {} defaultTtl (by decide) (by decide)
      (by decide) Endpoint.scripted 0 (s := ⟨cookieWorld "theme=dark; refreshToken=r", []⟩)
      rfl rfl rfl held granted (by decide)
  refine ⟨held, hresult, jar', hstore, ?_, ?_, ?_⟩
  · exact (haccess .least).trans (by decide +kernel)
  · exact (hrefresh .least).trans (by decide +kernel)
  · exact (hother .least "theme" (by decide) (by decide)).trans (by decide +kernel)

/-- A value with a space is read from the header of a request, and cannot be written again. -/
theorem refresh_ofHeader_of_space :
    let jar := RequestJar.ofHeader (some "refreshToken=a b")
    let (result, s') := (refresh notedExchange Script.store Script.log {} defaultTtl).alone
      Endpoint.scripted.scenes 0 ⟨cookieWorld "refreshToken=a b", []⟩
    jar.get .least "refreshToken" = some ⟨"a b"⟩ ∧ isToken "accessToken" = true ∧
      isToken "refreshToken" = true ∧ "renewed".toList.all RequestJar.isOctet = true ∧
      result = .error (.store (.invalidValue "refreshToken")) ∧
      ∃ jar', s'.world.store = .request jar' ∧
        jar'.get .least "accessToken" = some ⟨"renewed"⟩ := by
  refine ⟨by decide +kernel, by decide, by decide, by decide, ?_, ?_⟩
  · rfl
  · exact ⟨_, rfl, by decide +kernel⟩

end BearerSession
