import BearerSession.Proofs.CookieHeader
import BearerSession.Proofs.TimeToLive
import BearerSession.Proofs.TokenOrder

namespace BearerSession

/-- The white space that a browser drops. -/
def isSpace (c : Char) : Bool := c = ' ' || c = '\t'

/-- Reads a number of seconds. Less than none is as good as none. -/
def seconds? (text : List Char) : Option Nat :=
  match text with
  | [] => none
  | '-' :: digits => if digits.all Char.isDigit then some 0 else none
  | digits => if digits.all Char.isDigit then some (Nat.ofDigitChars 10 digits 0) else none

/-- The lifetime that an attribute of a cookie sets. -/
def maxAge? (text : List Char) : Option Nat :=
  match splitFirst? '=' text with
  | none => none
  | some (name, value) =>
    if (trimWhere isSpace name).map Char.toLower = "max-age".toList then
      seconds? (trimWhere isSpace value)
    else none

/-- What a browser makes of a header that tells of a cookie. -/
structure SetCookie where
  name : String
  value : String
  maxAge : Option Nat
  deriving DecidableEq

namespace SetCookie

/-- Reads a header that tells of a cookie. Of several lifetimes the last one counts. -/
def read? (line : String) : Option SetCookie :=
  match splitAll ';' line.toList with
  | [] => none
  | pair :: attributes =>
    match splitFirst? '=' pair with
    | none => none
    | some (name, value) =>
      let name := trimWhere isSpace name
      if name = [] then none
      else some ⟨String.ofList name, String.ofList (trimWhere isSpace value),
        (attributes.filterMap maxAge?).getLast?⟩

def kept (c : SetCookie) : Option String := if c.maxAge = some 0 then none else some c.value

/-- Stores or deletes a cookie. -/
def apply (c : SetCookie) (browser : SortedMap String) : SortedMap String :=
  if c.maxAge = some 0 then browser.erase c.name else browser.insert c.name c.value

/-- What a call has to tell a browser. -/
def ofCall : StoreOp → Option SetCookie
  | .set key value ttl => some ⟨key, value.expose, some ttl.seconds.toNat⟩
  | .remove key => some ⟨key, "", some 0⟩
  | .get _ | .has _ => none

/-- What a change has to tell a browser. -/
def ofChange (name : String) (change : CookieChange) : SetCookie :=
  ⟨name, (RequestJar.told change).1, some (RequestJar.told change).2⟩

end SetCookie

/-- The cookies of a browser after the headers of a response. One that tells of no cookie is passed
over. -/
def receive (browser : SortedMap String) (lines : List String) : SortedMap String :=
  (lines.filterMap SetCookie.read?).foldl (fun browser c => c.apply browser) browser

section Reading

variable {cs : List Char} {jar : RequestJar} {name : String} {change : CookieChange}

theorem isSpace_of_isVisible {c : Char} (h : isVisible c = true) : isSpace c = false := by
  obtain ⟨hlow, hhigh⟩ := isVisible_iff.mp h
  simp only [isSpace, Bool.or_eq_false_iff, decide_eq_false_iff_not]
  constructor
  · rintro rfl
    exact absurd hlow (by decide)
  · rintro rfl
    exact absurd hlow (by decide)

theorem trimSpace_of_visible (h : ∀ c ∈ cs, isVisible c = true) : trimWhere isSpace cs = cs :=
  trimWhere_of_forall fun c hc => isSpace_of_isVisible (h c hc)

theorem seconds?_decimal (n : Nat) : seconds? (toString n).toList = some n := by
  have hdigits : (toString n).toList = Nat.toDigits 10 n := Nat.toList_repr
  have hall : (toString n).toList.all Char.isDigit = true :=
    List.all_eq_true.mpr fun c hc => mem_decimal hc
  have hvalue : Nat.ofDigitChars 10 (toString n).toList 0 = n := by
    rw [hdigits]
    exact Nat.ofDigitChars_ten_toDigits
  unfold seconds?
  split
  next hnil =>
    rw [hnil] at hdigits
    exact absurd hdigits.symm Nat.toDigits_ne_nil
  next digits hminus =>
    rw [hminus] at hall
    exact absurd hall (by simp)
  next => rw [if_pos hall, hvalue]

theorem maxAge?_decimal (n : Nat) : maxAge? (" Max-Age=" ++ toString n).toList = some n := by
  have hcut : splitFirst? '=' (" Max-Age=" ++ toString n).toList =
      some (" Max-Age".toList, (toString n).toList) := by
    have hname : '=' ∉ " Max-Age".toList := by decide
    rw [String.toList_append]
    exact splitFirst?_append hname (toString n).toList
  have htrim : trimWhere isSpace (toString n).toList = (toString n).toList :=
    trimSpace_of_visible fun c hc => (isVisible_of_isDigit (mem_decimal hc)).1
  unfold maxAge?
  rw [hcut]
  simp only [htrim, seconds?_decimal]
  rfl

/-- The lifetime of a header is that of its change, whatever the path before it is. -/
theorem maxAge?_ageParts :
    (jar.ageParts change).filterMap (fun part => maxAge? part.toList) =
      [(RequestJar.told change).2] := by
  have hsite : maxAge? " SameSite=Lax".toList = none := by decide
  have hsecure : maxAge? " Secure".toList = none := by decide
  unfold RequestJar.ageParts
  rw [List.filterMap_cons, maxAge?_decimal, List.filterMap_cons, hsite]
  cases jar.secure with
  | false => rfl
  | true =>
    simp only [if_true, List.filterMap_cons, hsecure]
    rfl

theorem read?_line (hname : isToken name = true) (hchange : RequestJar.IsSound change) :
    SetCookie.read? (jar.line name change) = some (.ofChange name change) := by
  -- The lifetime comes after the path, so that none in the path counts.
  have hage : ((splitAll ';' (" Path=" ++ jar.path).toList ++
      (jar.ageParts change).map String.toList).filterMap maxAge?).getLast? =
        some (RequestJar.told change).2 := by
    have hlasts : (jar.ageParts change).filterMap (maxAge? ∘ String.toList) =
        [(RequestJar.told change).2] := maxAge?_ageParts
    rw [List.filterMap_append, List.filterMap_map, hlasts]
    exact List.getLast?_concat
  have htrimName : trimWhere isSpace name.toList = name.toList :=
    trimSpace_of_visible fun c hc => (of_mem_token hname hc).1
  have htrimValue : trimWhere isSpace (RequestJar.told change).1.toList =
      (RequestJar.told change).1.toList :=
    trimSpace_of_visible fun c hc =>
      (RequestJar.of_mem_octets (RequestJar.octets_told hchange) hc).1
  unfold SetCookie.read?
  rw [RequestJar.splitAll_line hname hchange]
  simp only [cut_pair hname, htrimName, htrimValue, hage, if_neg (ne_nil_of_token hname),
    String.ofList_toList]
  rfl

end Reading

namespace SetCookie

theorem get?_apply (browser : SortedMap String) (c : SetCookie) (key : String) :
    (c.apply browser).get? key = if key = c.name then c.kept else browser.get? key := by
  unfold apply kept
  split
  · rw [SortedMap.get?_erase]
  · rw [SortedMap.get?_insert]

theorem get?_foldl_apply (es : List (String × CookieChange))
    (hes : es.Pairwise fun a b => a.1 < b.1) (browser : SortedMap String) (key : String) :
    ((es.map fun e => ofChange e.1 e.2).foldl (fun browser c => c.apply browser) browser).get? key =
      match SortedMap.find? key es with
      | some change => (ofChange key change).kept
      | none => browser.get? key := by
  induction es generalizing browser with
  | nil => rfl
  | cons e es ih =>
    obtain ⟨hhead, htail⟩ := List.pairwise_cons.mp hes
    rw [List.map_cons, List.foldl_cons, ih htail, get?_apply, SortedMap.find?]
    by_cases hkey : key = e.1
    · have hnone : SortedMap.find? e.1 es = none := SortedMap.find?_eq_none_of_lt hhead
      have hname : (ofChange e.1 e.2).name = e.1 := rfl
      rw [hkey, hnone, hname, if_pos rfl, if_pos rfl]
    · have hname : ¬ key = (ofChange e.1 e.2).name := hkey
      rw [if_neg hkey, if_neg hname]

theorem ofCall_eq {op : StoreOp} {key : String} (h : op.writes key = true) :
    ofCall op = (RequestJar.changeOf op).map (ofChange key) := by
  cases op with
  | get => cases h
  | has => cases h
  | remove key' =>
    cases of_decide_eq_true h
    rfl
  | set key' value ttl =>
    cases of_decide_eq_true h
    have hage : ttl.seconds.toNat = (max ttl.seconds 0).toNat := by omega
    show some _ = some _
    rw [hage]
    rfl

end SetCookie

namespace RequestJar

variable {start jar : RequestJar} {past : StoreHistory} {key : String}

/-- What a jar in the end tells a browser, in the order of the keys. -/
theorem Told.read_finish (h : Told start past jar) :
    jar.finish.map SetCookie.read? =
      jar.changes.entries.map fun e => some (SetCookie.ofChange e.1 e.2) := by
  unfold finish
  rw [List.map_map]
  refine List.map_congr_left fun e he => ?_
  obtain ⟨htoken, hsound, -⟩ := h.sound (SortedMap.get?_of_mem he)
  exact read?_line htoken hsound

theorem Told.filterMap_read_finish (h : Told start past jar) :
    jar.finish.filterMap SetCookie.read? =
      jar.changes.entries.map fun e => SetCookie.ofChange e.1 e.2 := by
  have hmap := congrArg (List.filterMap id) h.read_finish
  rw [List.filterMap_map, List.filterMap_map] at hmap
  exact hmap.trans (congrFun List.filterMap_eq_map _)

theorem Told.get?_receive (h : Told start past jar) (browser : SortedMap String) (key : String) :
    (receive browser jar.finish).get? key =
      match jar.changes.get? key with
      | some change => (SetCookie.ofChange key change).kept
      | none => browser.get? key := by
  unfold receive
  rw [h.filterMap_read_finish]
  exact SetCookie.get?_foldl_apply _ jar.changes.ascending browser key

theorem Told.mem_keys_iff (h : Told start past jar) :
    key ∈ jar.changes.keys ↔ ∃ u ∈ past, u.2.writes key = true := by
  rw [← lastCall_isSome_iff]
  constructor
  · intro hkey
    obtain ⟨e, he, rfl⟩ := List.mem_map.mp hkey
    obtain ⟨-, -, now, op, hlast, -⟩ := h.sound (SortedMap.get?_of_mem he)
    rw [hlast]
    rfl
  · intro hsome
    obtain ⟨⟨now, op⟩, hlast⟩ := Option.isSome_iff_exists.mp hsome
    have hwrites := (mem_of_lastCall hlast).2
    have hget := h.changes key
    rw [hlast] at hget
    cases op with
    | get => cases hwrites
    | has => cases hwrites
    | set key' value ttl => exact SortedMap.mem_keys_of_get? hget
    | remove key' => exact SortedMap.mem_keys_of_get? hget

theorem Told.ofCall_lastCall (h : Told start past jar) {change : CookieChange}
    (hget : jar.changes.get? key = some change) :
    (lastCall key past).bind (fun u => SetCookie.ofCall u.2) =
      some (SetCookie.ofChange key change) := by
  obtain ⟨-, -, now, op, hlast, hchange⟩ := h.sound hget
  rw [hlast, Option.bind_some, SetCookie.ofCall_eq (mem_of_lastCall hlast).2, hchange]
  rfl

theorem Told.of_mem_receive (h : Told start past jar) {browser : SortedMap String}
    (hbrowser : ∀ e ∈ browser.entries, IsCookiePair e.1 e.2) :
    ∀ e ∈ (receive browser jar.finish).entries, IsCookiePair e.1 e.2 := by
  intro e he
  have hget := (h.get?_receive browser e.1).symm.trans (SortedMap.get?_of_mem he)
  cases hchange : jar.changes.get? e.1 with
  | none =>
    rw [hchange] at hget
    exact hbrowser e (SortedMap.find?_eq_some_mem hget)
  | some change =>
    rw [hchange] at hget
    obtain ⟨htoken, hsound, -⟩ := h.sound hchange
    have hvalue : (told change).1 = e.2 := by
      simp only [SetCookie.kept] at hget
      split at hget
      · cases hget
      · exact Option.some.inj hget
    exact ⟨htoken, hvalue ▸ octets_told hsound⟩

/-- What a jar holds in the end, a browser that held what it started from holds as well. -/
theorem Told.get_eq_receive (h : Told start past jar) {browser : SortedMap String}
    (hstart : start.cookies.get? key =
      (browser.get? key).map fun value => ⟨⟨value⟩, none⟩)
    {t : Instant} (hset : ∀ now value ttl, lastCall key past = some (now, .set key value ttl) →
      0 < ttl.seconds ∧ t < now.plus ttl) :
    jar.get t key = ((receive browser jar.finish).get? key).map Secret.mk := by
  unfold get
  rw [h.cookies, h.get?_receive, h.changes]
  cases hlast : lastCall key past with
  | none =>
    simp only [Option.bind_none, hstart]
    cases browser.get? key <;> rfl
  | some u =>
    obtain ⟨now, op⟩ := u
    have hwrites := (mem_of_lastCall hlast).2
    cases op with
    | get => cases hwrites
    | has => cases hwrites
    | remove => rfl
    | set key' value ttl =>
      cases of_decide_eq_true hwrites
      obtain ⟨hseconds, hlive⟩ := hset now value ttl hlast
      have hage : (max ttl.seconds 0).toNat ≠ 0 := by omega
      have hheld : ((cookieOf (now, .set key value ttl)).filter fun c => c.isLive t) =
          cookieOf (now, .set key value ttl) := Option.filter_some_pos (decide_eq_true hlive)
      have hkept : (SetCookie.ofChange key (.set value (max ttl.seconds 0))).kept =
          some value.expose := if_neg fun hzero => hage (Option.some.inj hzero)
      simp only [Option.bind_some, changeOf, hheld, hkept]
      rfl

end RequestJar

theorem seconds_pos_of_days {days : Int} {ttl : Span} (h : ttlOfDays days = .ok ttl) :
    0 < ttl.seconds := by
  have hseconds := seconds_of_days h
  obtain ⟨hdays, -⟩ := ttlOfDays_eq_ok_iff.mp h
  omega

/-- A browser sends its cookies, in any order, and a jar is built from them. After any calls, with
times to live of days, the jar has one header for each key of an accepted write or removal, in the
order of their bytes, and the header tells of the latest one. The browser that obeys the headers
sends, with its next request, what the jar held in the end, at a time at which what was written to it
still lives. -/
theorem browser_keeps_finished_cookies {browser : SortedMap String}
    (cookies : ∀ e ∈ browser.entries, IsCookiePair e.1 e.2) {header : Option String}
    (sends : Sends browser header) (path : String) (secure : Bool) (machine : Machine)
    {past : StoreHistory}
    (days : ∀ now key value ttl, (now, StoreOp.set key value ttl) ∈ past →
      ∃ n, ttlOfDays n = .ok ttl) :
    let start : AnyStore × Machine :=
      (.request { RequestJar.ofHeader header with path, secure }, machine)
    let accepted := AnyStore.accepted start past
    ∃ (jar : RequestJar) (keys : List String),
      AnyStore.after start past = (.request jar, machine) ∧
      keys.Pairwise (fun a b => bytes a < bytes b) ∧
      (∀ key, key ∈ keys ↔ ∃ u ∈ accepted, u.2.writes key = true) ∧
      jar.finish.map SetCookie.read? =
        keys.map (fun key => (lastCall key accepted).bind fun u => SetCookie.ofCall u.2) ∧
      ∀ next, Sends (receive browser jar.finish) next → ∀ (t t' : Instant) key,
        (∀ now value ttl, lastCall key accepted = some (now, .set key value ttl) →
          t < now.plus ttl) →
        (RequestJar.ofHeader next).get t' key = jar.get t key := by
  intro start accepted
  obtain ⟨jar, hafter, htold⟩ := RequestJar.Told.of_after
    { RequestJar.ofHeader header with path, secure } (RequestJar.changes_ofHeader header) machine past
  refine ⟨jar, jar.changes.keys, hafter, ?_, fun key => htold.mem_keys_iff, ?_, ?_⟩
  · refine List.pairwise_map.mpr (jar.changes.ascending.imp_of_mem fun ha hb hlt => ?_)
    have htokenA := (htold.sound (SortedMap.get?_of_mem ha)).1
    have htokenB := (htold.sound (SortedMap.get?_of_mem hb)).1
    exact bytes_lt_of_token htokenA htokenB hlt
  · rw [htold.read_finish, SortedMap.keys, List.map_map]
    refine List.map_congr_left fun e he => ?_
    exact (htold.ofCall_lastCall (SortedMap.get?_of_mem he)).symm
  · intro next hnext t t' key hlive
    rw [RequestJar.get_ofHeader hnext (htold.of_mem_receive cookies)]
    have hstart := RequestJar.ofHeader_of_sends sends cookies key
    refine (htold.get_eq_receive hstart fun now value ttl hlast => ?_).symm
    have hmem := (AnyStore.accepted_sublist start past).subset (mem_of_lastCall hlast).1
    obtain ⟨n, hn⟩ := days now key value ttl hmem
    exact ⟨seconds_pos_of_days hn, hlive now value ttl hlast⟩

def heldCookies : SortedMap String := .ofList [("a", "old"), ("b", "1")]

/-- The theorem at a jar that one cookie is written to and another is removed from. -/
theorem browser_keeps_finished_cookies_of_two :
    (∀ e ∈ heldCookies.entries, IsCookiePair e.1 e.2) ∧
    Sends heldCookies (some "b=1; a=old") ∧
    (∀ now key value ttl, (now, StoreOp.set key value ttl) ∈ cookieCalls →
      ∃ n, ttlOfDays n = .ok ttl) ∧
    ∃ jar : RequestJar,
      AnyStore.after (.request { RequestJar.ofHeader (some "b=1; a=old") with path := "/app" },
        ⟨Disk.blank [], {}⟩) cookieCalls = (.request jar, ⟨Disk.blank [], {}⟩) ∧
      jar.finish = ["a=v=w; Path=/app; Max-Age=604800; SameSite=Lax",
        "b=; Path=/app; Max-Age=0; SameSite=Lax"] ∧
      Instant.least < Instant.least.plus defaultTtl ∧
      ∀ t', (RequestJar.ofHeader (some "a=v=w")).get t' "a" = jar.get .least "a" := by
  have hcookies : ∀ e ∈ heldCookies.entries, IsCookiePair e.1 e.2 := by
    unfold IsCookiePair
    decide +kernel
  have hsends : Sends heldCookies (some "b=1; a=old") := by
    have hperm : [("b", "1"), ("a", "old")].Perm heldCookies.toList := by decide +kernel
    exact .header hperm
  have hcalls : ∀ now key value ttl, (now, StoreOp.set key value ttl) ∈ cookieCalls →
      now = .least ∧ ttl = defaultTtl := by
    intro now key value ttl hmem
    simp only [cookieCalls, List.mem_cons, Prod.mk.injEq, StoreOp.set.injEq] at hmem
    rcases hmem with ⟨hnow, -, -, httl⟩ | ⟨-, hop⟩ | ⟨hnow, -, -, httl⟩ | hmem
    · exact ⟨hnow, httl⟩
    · cases hop
    · exact ⟨hnow, httl⟩
    · cases hmem
  have hdays : ∀ now key value ttl, (now, StoreOp.set key value ttl) ∈ cookieCalls →
      ∃ n, ttlOfDays n = .ok ttl := by
    intro now key value ttl hmem
    obtain ⟨-, rfl⟩ := hcalls now key value ttl hmem
    exact ⟨7, rfl⟩
  have hlater : Instant.least < Instant.least.plus defaultTtl := by decide
  obtain ⟨jar, keys, hafter, -, -, -, hnext⟩ := browser_keeps_finished_cookies hcookies hsends "/app"
    false ⟨Disk.blank [], {}⟩ hdays
  have hfinish : jar.finish = ["a=v=w; Path=/app; Max-Age=604800; SameSite=Lax",
      "b=; Path=/app; Max-Age=0; SameSite=Lax"] := by
    have hends := congrArg (fun state => AnyStore.headers state.1) hafter
    exact hends.symm.trans (by decide +kernel)
  have hheader : Sends (receive heldCookies jar.finish) (some "a=v=w") := by
    rw [hfinish]
    have hperm : [("a", "v=w")].Perm (receive heldCookies
        ["a=v=w; Path=/app; Max-Age=604800; SameSite=Lax",
          "b=; Path=/app; Max-Age=0; SameSite=Lax"]).toList := by decide +kernel
    exact .header hperm
  refine ⟨hcookies, hsends, hdays, jar, hafter, hfinish, hlater, fun t' => ?_⟩
  refine hnext _ hheader .least t' "a" fun now value ttl hlast => ?_
  have hmem := (AnyStore.accepted_sublist _ _).subset (mem_of_lastCall hlast).1
  obtain ⟨rfl, rfl⟩ := hcalls now "a" value ttl hmem
  exact hlater

end BearerSession
