import BearerSession.Proofs.StoreAgreement

namespace BearerSession

/-- The latest call that decides what a key holds. -/
def lastCall (key : String) (past : StoreHistory) : Option (Instant × StoreOp) :=
  past.find? fun u => u.2.writes key

theorem lastCall_cons (key : String) (u : Instant × StoreOp) (past : StoreHistory) :
    lastCall key (u :: past) = if u.2.writes key then some u else lastCall key past := by
  unfold lastCall
  rw [List.find?_cons]
  cases u.2.writes key <;> rfl

theorem mem_of_lastCall {key : String} {past : StoreHistory} {u : Instant × StoreOp}
    (h : lastCall key past = some u) : u ∈ past ∧ u.2.writes key = true := by
  unfold lastCall at h
  have hwrites := List.find?_some h
  exact ⟨List.mem_of_find?_eq_some h, hwrites⟩

theorem lastCall_isSome_iff {key : String} {past : StoreHistory} :
    (lastCall key past).isSome = true ↔ ∃ u ∈ past, u.2.writes key = true := by
  unfold lastCall
  rw [List.find?_isSome]

namespace AnyStore

/-- A store and its machine after calls, the latest first, whether they are accepted or not. -/
def after (state : AnyStore × Machine) : StoreHistory → AnyStore × Machine
  | [] => state
  | (now, op) :: past => (op.perform (calls now) (after state past)).2

/-- The headers that a request's jar of cookies ends in. -/
def headers : AnyStore → List String
  | .request jar => jar.finish
  | _ => []

/-- Those of the calls that are accepted. -/
def accepted (state : AnyStore × Machine) : StoreHistory → StoreHistory
  | [] => []
  | (now, op) :: past =>
    if (op.perform (calls now) (after state past)).1.isOk then (now, op) :: accepted state past
    else accepted state past

theorem accepted_sublist (state : AnyStore × Machine) (past : StoreHistory) :
    (accepted state past).Sublist past := by
  induction past with
  | nil => exact .slnil
  | cons u past ih =>
    unfold accepted
    split
    · exact ih.cons_cons u
    · exact ih.cons u

end AnyStore

namespace RequestJar

/-- Whether a call can be carried by cookies. -/
def carries : StoreOp → Bool
  | .set key value _ => isToken key && value.expose.toList.all isOctet
  | .remove key => isToken key
  | .get _ | .has _ => true

/-- The cookie that a call leaves behind. -/
def cookieOf : Instant × StoreOp → Option Cookie
  | (now, .set _ value ttl) => some ⟨value, some (now.plus ttl)⟩
  | _ => none

/-- What a call has to tell a response. -/
def changeOf : StoreOp → Option CookieChange
  | .set _ value ttl => some (.set value (max ttl.seconds 0))
  | .remove _ => some .remove
  | .get _ | .has _ => none

/-- A jar after a call that is carried. -/
def tell (jar : RequestJar) (now : Instant) : StoreOp → RequestJar
  | .set key value ttl => { jar with
      cookies := jar.cookies.insert key ⟨value, some (now.plus ttl)⟩
      changes := jar.changes.insert key (.set value (max ttl.seconds 0)) }
  | .remove key =>
    { jar with cookies := jar.cookies.erase key, changes := jar.changes.insert key .remove }
  | .get _ | .has _ => jar

variable {start jar : RequestJar} {machine : Machine} {now : Instant} {op : StoreOp} {key : String}
  {past : StoreHistory}

theorem perform_carried (jar : RequestJar) (machine : Machine) (now : Instant)
    (h : carries op = true) :
    ∃ reply, op.perform (AnyStore.calls now) (.request jar, machine) =
      (.ok reply, .request (jar.tell now op), machine) := by
  cases op with
  | get key => exact ⟨_, rfl⟩
  | has key => exact ⟨_, rfl⟩
  | set key value ttl =>
    have hset : jar.set now key value ttl = .ok (jar.tell now (.set key value ttl)) := if_pos h
    refine ⟨.done, ?_⟩
    show (Except.map _ (AnyStore.set _ _ _ _ _ _).1, (AnyStore.set _ _ _ _ _ _).2) = _
    simp only [AnyStore.set, hset]
    rfl
  | remove key =>
    have hremove : jar.remove key = .ok (jar.tell now (.remove key)) := if_pos h
    refine ⟨.done, ?_⟩
    show (Except.map _ (AnyStore.remove _ _ _ _).1, (AnyStore.remove _ _ _ _).2) = _
    simp only [AnyStore.remove, hremove]
    rfl

/-- A call that is not carried is rejected, and changes nothing. -/
theorem perform_rejected (jar : RequestJar) (machine : Machine) (now : Instant)
    (h : carries op = false) :
    ∃ key, op.perform (AnyStore.calls now) (.request jar, machine) =
      (.error (.invalidValue key), .request jar, machine) := by
  cases op with
  | get key => cases h
  | has key => cases h
  | set key value ttl =>
    have hset : jar.set now key value ttl = .error (.invalidValue key) :=
      if_neg (Bool.eq_false_iff.mp h)
    refine ⟨key, ?_⟩
    show (Except.map _ (AnyStore.set _ _ _ _ _ _).1, (AnyStore.set _ _ _ _ _ _).2) = _
    simp only [AnyStore.set, hset]
    rfl
  | remove key =>
    have hremove : jar.remove key = .error (.invalidValue key) := if_neg (Bool.eq_false_iff.mp h)
    refine ⟨key, ?_⟩
    show (Except.map _ (AnyStore.remove _ _ _ _).1, (AnyStore.remove _ _ _ _).2) = _
    simp only [AnyStore.remove, hremove]
    rfl

theorem changes_ofHeader (header : Option String) : (ofHeader header).changes = .empty := by
  cases header <;> rfl

theorem get?_cookies_tell (jar : RequestJar) (now : Instant) (op : StoreOp) (key : String) :
    (jar.tell now op).cookies.get? key =
      if op.writes key then cookieOf (now, op) else jar.cookies.get? key := by
  cases op with
  | get => rfl
  | has => rfl
  | set key' value ttl =>
    show (jar.cookies.insert key' _).get? key = _
    rw [SortedMap.get?_insert]
    simp [StoreOp.writes, cookieOf, eq_comm]
  | remove key' =>
    show (jar.cookies.erase key').get? key = _
    rw [SortedMap.get?_erase]
    simp [StoreOp.writes, cookieOf, eq_comm]

theorem get?_changes_tell (jar : RequestJar) (now : Instant) (op : StoreOp) (key : String) :
    (jar.tell now op).changes.get? key =
      if op.writes key then changeOf op else jar.changes.get? key := by
  cases op with
  | get => rfl
  | has => rfl
  | set key' value ttl =>
    show (jar.changes.insert key' _).get? key = _
    rw [SortedMap.get?_insert]
    simp [StoreOp.writes, changeOf, eq_comm]
  | remove key' =>
    show (jar.changes.insert key' _).get? key = _
    rw [SortedMap.get?_insert]
    simp [StoreOp.writes, changeOf, eq_comm]

/-- What accepted calls make of a jar without changes. -/
structure Told (start : RequestJar) (past : StoreHistory) (jar : RequestJar) : Prop where
  path : jar.path = start.path
  secure : jar.secure = start.secure
  carried : ∀ u ∈ past, carries u.2 = true
  cookies : ∀ key, jar.cookies.get? key =
    match lastCall key past with
    | some u => cookieOf u
    | none => start.cookies.get? key
  changes : ∀ key, jar.changes.get? key = (lastCall key past).bind fun u => changeOf u.2

theorem Told.nil (h : start.changes = .empty) : Told start [] start := by
  refine ⟨rfl, rfl, fun u hu => (nomatch hu), fun key => rfl, fun key => ?_⟩
  rw [h]
  rfl

theorem Told.tell (h : Told start past jar) (hop : carries op = true) :
    Told start ((now, op) :: past) (jar.tell now op) := by
  have hpath : (jar.tell now op).path = jar.path ∧ (jar.tell now op).secure = jar.secure := by
    cases op <;> exact ⟨rfl, rfl⟩
  refine ⟨hpath.1.trans h.path, hpath.2.trans h.secure, ?_, fun key => ?_, fun key => ?_⟩
  · intro u hu
    rcases List.mem_cons.mp hu with rfl | hu
    · exact hop
    · exact h.carried u hu
  · rw [get?_cookies_tell, lastCall_cons, h.cookies]
    cases op.writes key <;> rfl
  · rw [get?_changes_tell, lastCall_cons, h.changes]
    cases op.writes key <;> rfl

theorem Told.of_after (start : RequestJar) (h : start.changes = .empty) (machine : Machine)
    (past : StoreHistory) :
    ∃ jar, AnyStore.after (.request start, machine) past = (.request jar, machine) ∧
      Told start (AnyStore.accepted (.request start, machine) past) jar := by
  induction past with
  | nil => exact ⟨start, rfl, .nil h⟩
  | cons u past ih =>
    obtain ⟨now, op⟩ := u
    obtain ⟨jar, hafter, htold⟩ := ih
    unfold AnyStore.after AnyStore.accepted
    rw [hafter]
    cases hop : carries op with
    | true =>
      obtain ⟨reply, hperform⟩ := perform_carried jar machine now hop
      rw [hperform]
      exact ⟨_, rfl, htold.tell hop⟩
    | false =>
      obtain ⟨key, hperform⟩ := perform_rejected jar machine now hop
      rw [hperform]
      exact ⟨jar, rfl, htold⟩

end RequestJar

end BearerSession
