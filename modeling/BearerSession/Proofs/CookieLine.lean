import BearerSession.Proofs.CookieCalls
import BearerSession.Proofs.DiskPath

namespace BearerSession

section Parts

variable {c : Char}

theorem splitAll_intercalate {texts : List (List Char)} (hne : texts ≠ []) :
    splitAll c ([c].intercalate texts) = texts.flatMap (splitAll c) := by
  induction texts with
  | nil => exact absurd rfl hne
  | cons text texts ih =>
    cases texts with
    | nil => simp
    | cons next texts =>
      have hrest := ih (List.cons_ne_nil next texts)
      rw [List.intercalate_cons_cons, List.append_assoc, List.singleton_append, splitAll_append,
        hrest]
      rfl

theorem flatMap_splitAll {parts : List (List Char)} (h : ∀ part ∈ parts, c ∉ part) :
    parts.flatMap (splitAll c) = parts := by
  induction parts with
  | nil => rfl
  | cons part parts ih =>
    have hpart : c ∉ part := h part List.mem_cons_self
    have hrest := ih fun p hp => h p (List.mem_cons_of_mem part hp)
    rw [List.flatMap_cons, splitAll_of_notMem hpart, hrest]
    rfl

theorem mem_intercalate {d : Char} {parts : List (List Char)} (h : d ∈ [c].intercalate parts) :
    d = c ∨ ∃ part ∈ parts, d ∈ part := by
  induction parts with
  | nil => cases h
  | cons part parts ih =>
    cases parts with
    | nil =>
      rw [List.intercalate_singleton] at h
      exact .inr ⟨part, List.mem_cons_self, h⟩
    | cons next parts =>
      rw [List.intercalate_cons_cons, List.append_assoc, List.mem_append] at h
      rcases h with h | h
      · exact .inr ⟨part, List.mem_cons_self, h⟩
      · rcases List.mem_cons.mp h with h | h
        · exact .inl h
        · obtain heq | ⟨p, hp, hmem⟩ := ih h
          · exact .inl heq
          · exact .inr ⟨p, List.mem_cons_of_mem part hp, hmem⟩

theorem splitFirst?_append {before : List Char} (h : c ∉ before) (rest : List Char) :
    splitFirst? c (before ++ c :: rest) = some (before, rest) := by
  induction before with
  | nil => exact if_pos rfl
  | cons b before ih =>
    have hb : b ≠ c := fun heq => h (heq ▸ List.mem_cons_self)
    have hrest := ih fun hmem => h (List.mem_cons_of_mem b hmem)
    rw [List.cons_append, splitFirst?, if_neg hb, hrest]
    rfl

end Parts

/-- Whether a character is of ASCII and no control character. -/
def IsPrintable (c : Char) : Prop := 0x20 ≤ c.toNat ∧ c.toNat ≤ 0x7E

instance (c : Char) : Decidable (IsPrintable c) := inferInstanceAs (Decidable (_ ∧ _))

section Characters

variable {c : Char} {name : String}

theorem isVisible_iff : isVisible c = true ↔ 0x21 ≤ c.toNat ∧ c.toNat ≤ 0x7E := by
  simp [isVisible]

theorem isPrintable_of_isVisible (h : isVisible c = true) : IsPrintable c := by
  obtain ⟨hlow, hhigh⟩ := isVisible_iff.mp h
  exact ⟨by omega, hhigh⟩

theorem plain_of_all {text : String}
    (h : (text.toList.all fun c => decide (IsPrintable c ∧ c ≠ ';')) = true)
    (hc : c ∈ text.toList) : IsPrintable c ∧ c ≠ ';' :=
  of_decide_eq_true (List.all_eq_true.mp h c hc)

theorem isVisible_of_isDigit (h : c.isDigit = true) : isVisible c = true ∧ c ≠ ';' := by
  obtain ⟨hlow, hhigh⟩ := Char.isDigit_iff_toNat.mp h
  have hlow' : 48 ≤ c.toNat := hlow
  have hhigh' : c.toNat ≤ 57 := hhigh
  refine ⟨isVisible_iff.mpr ⟨by omega, by omega⟩, ?_⟩
  rintro rfl
  exact absurd hhigh' (by decide)

theorem of_mem_token (h : isToken name = true) (hc : c ∈ name.toList) :
    isVisible c = true ∧ c ∉ separators := by
  unfold isToken at h
  have hall := (Bool.and_eq_true_iff.mp h).2
  have hcs := List.all_eq_true.mp hall c hc
  simpa using hcs

theorem ne_of_mem_token {d : Char} (h : isToken name = true) (hd : d ∈ separators) :
    d ∉ name.toList :=
  fun hmem => (of_mem_token h hmem).2 hd

theorem ne_nil_of_token (h : isToken name = true) : name.toList ≠ [] := by
  have hempty : name.isEmpty = false := by simpa using (Bool.and_eq_true_iff.mp h).1
  simpa using hempty

theorem RequestJar.of_mem_octets {cs : List Char} (h : cs.all isOctet = true) (hc : c ∈ cs) :
    isVisible c = true ∧ c ∉ ['"', ',', ';', '\\'] := by
  have hoctet := List.all_eq_true.mp h c hc
  unfold isOctet at hoctet
  simpa using hoctet

theorem mem_decimal {n : Nat} (hc : c ∈ (toString n).toList) : c.isDigit = true := by
  have hdigits : (toString n).toList = Nat.toDigits 10 n := Nat.toList_repr
  rw [hdigits] at hc
  exact Nat.isDigit_of_mem_toDigits (by decide) (by decide) hc

/-- Whether a cookie has the name and the value of one: a token and octets. -/
def IsCookiePair (name value : String) : Prop :=
  isToken name = true ∧ value.toList.all RequestJar.isOctet = true

theorem of_mem_pair {value : String} (h : IsCookiePair name value)
    (hc : c ∈ (name ++ "=" ++ value).toList) : isVisible c = true ∧ c ≠ ';' := by
  simp only [String.toList_append, List.mem_append] at hc
  rcases hc with (hc | hc) | hc
  · obtain ⟨hvisible, hseparator⟩ := of_mem_token h.1 hc
    refine ⟨hvisible, ?_⟩
    rintro rfl
    exact hseparator (by decide)
  · cases List.mem_singleton.mp hc
    decide
  · obtain ⟨hvisible, hoctet⟩ := RequestJar.of_mem_octets h.2 hc
    refine ⟨hvisible, ?_⟩
    rintro rfl
    exact hoctet (by decide)

theorem cut_pair (h : isToken name = true) (value : String) :
    splitFirst? '=' (name ++ "=" ++ value).toList = some (name.toList, value.toList) := by
  rw [String.toList_append, String.toList_append, List.append_assoc]
  exact splitFirst?_append (ne_of_mem_token h (by decide)) value.toList

end Characters

namespace RequestJar

/-- The value and the seconds of a change. -/
def told : CookieChange → String × Nat
  | .set value maxAge => (value.expose, maxAge.toNat)
  | .remove => ("", 0)

/-- The parts of a header after the path. -/
def ageParts (jar : RequestJar) (change : CookieChange) : List String :=
  (" Max-Age=" ++ toString (told change).2) :: " SameSite=Lax" ::
    if jar.secure then [" Secure"] else []

/-- The parts of the header that tells of a change, between semicolons. -/
def lineParts (jar : RequestJar) (name : String) (change : CookieChange) : List String :=
  (name ++ "=" ++ (told change).1) :: (" Path=" ++ jar.path) :: jar.ageParts change

/-- Whether a change can be told without a cut in its value. -/
def IsSound : CookieChange → Prop
  | .set value maxAge => value.expose.toList.all isOctet = true ∧ 0 ≤ maxAge
  | .remove => True

variable {jar : RequestJar} {name : String} {change : CookieChange}

theorem toList_line (hchange : IsSound change) :
    (jar.line name change).toList =
      [';'].intercalate ((jar.lineParts name change).map String.toList) := by
  have hage (maxAge : Int) (h : 0 ≤ maxAge) : toString maxAge = toString maxAge.toNat := by
    obtain ⟨n, rfl⟩ := Int.eq_ofNat_of_zero_le h
    rfl
  cases change with
  | set value maxAge =>
    cases hs : jar.secure <;>
      simp [line, lineParts, ageParts, told, hs, hage maxAge hchange.2, List.intercalate]
  | remove =>
    have hzero : (Int.repr 0).toList = ['0'] := rfl
    cases hs : jar.secure <;> simp [line, lineParts, ageParts, told, hs, hzero, List.intercalate]

theorem octets_told (hchange : IsSound change) : (told change).1.toList.all isOctet = true := by
  cases change with
  | set => exact hchange.1
  | remove => rfl

theorem of_mem_ageParts {part : String} {c : Char} (hpart : part ∈ jar.ageParts change)
    (hc : c ∈ part.toList) : IsPrintable c ∧ c ≠ ';' := by
  unfold ageParts at hpart
  simp only [List.mem_cons] at hpart
  rcases hpart with rfl | rfl | hpart
  · rw [String.toList_append, List.mem_append] at hc
    rcases hc with hc | hc
    · exact plain_of_all (by decide) hc
    · obtain ⟨hvisible, hne⟩ := isVisible_of_isDigit (mem_decimal hc)
      exact ⟨isPrintable_of_isVisible hvisible, hne⟩
  · exact plain_of_all (by decide) hc
  · split at hpart
    · cases List.mem_singleton.mp hpart
      exact plain_of_all (by decide) hc
    · cases hpart

theorem of_mem_lineParts {part : String} {c : Char} (hname : isToken name = true)
    (hchange : IsSound change) (hpart : part ∈ jar.lineParts name change) (hc : c ∈ part.toList) :
    IsPrintable c ∧ c ≠ ';' ∨ c ∈ jar.path.toList := by
  unfold lineParts at hpart
  simp only [List.mem_cons] at hpart
  rcases hpart with rfl | rfl | hpart
  · obtain ⟨hvisible, hne⟩ := of_mem_pair ⟨hname, octets_told hchange⟩ hc
    exact .inl ⟨isPrintable_of_isVisible hvisible, hne⟩
  · rw [String.toList_append, List.mem_append] at hc
    rcases hc with hc | hc
    · exact .inl (plain_of_all (by decide) hc)
    · exact .inr hc
  · exact .inl (of_mem_ageParts hpart hc)

/-- Semicolons in the path make more parts, between the pair and the lifetime. -/
theorem splitAll_line (hname : isToken name = true) (hchange : IsSound change) :
    splitAll ';' (jar.line name change).toList =
      (name ++ "=" ++ (told change).1).toList ::
        (splitAll ';' (" Path=" ++ jar.path).toList ++
          (jar.ageParts change).map String.toList) := by
  have hfirst : splitAll ';' (name ++ "=" ++ (told change).1).toList =
      [(name ++ "=" ++ (told change).1).toList] :=
    splitAll_of_notMem fun hmem => (of_mem_pair ⟨hname, octets_told hchange⟩ hmem).2 rfl
  have hlast : ((jar.ageParts change).map String.toList).flatMap (splitAll ';') =
      (jar.ageParts change).map String.toList := by
    refine flatMap_splitAll fun part hpart hmem => ?_
    obtain ⟨text, htext, rfl⟩ := List.mem_map.mp hpart
    exact (of_mem_ageParts htext hmem).2 rfl
  rw [toList_line hchange, splitAll_intercalate (by simp [lineParts]), lineParts, List.map_cons,
    List.map_cons, List.flatMap_cons, List.flatMap_cons, hfirst, hlast]
  rfl

theorem splitAll_path {path : String} (hpath : ';' ∉ path.toList) :
    splitAll ';' (" Path=" ++ path).toList = [(" Path=" ++ path).toList] := by
  refine splitAll_of_notMem fun hmem => ?_
  rw [String.toList_append, List.mem_append] at hmem
  rcases hmem with hmem | hmem
  · exact absurd hmem (by decide)
  · exact hpath hmem

/-- The parts of a header, with those of a path that has no semicolon. -/
theorem cut_line (hname : isToken name = true) (hchange : IsSound change)
    (hpath : ';' ∉ jar.path.toList) :
    (splitAll ';' (jar.line name change).toList).map String.ofList =
      [name ++ "=" ++ (told change).1, " Path=" ++ jar.path,
          " Max-Age=" ++ toString (told change).2, " SameSite=Lax"] ++
        (if jar.secure then [" Secure"] else []) := by
  have hage :
      ((jar.ageParts change).map String.toList).map String.ofList = jar.ageParts change := by
    rw [List.map_map]
    simp
  rw [splitAll_line hname hchange, splitAll_path hpath, List.map_cons, List.map_append, hage,
    ageParts]
  simp only [List.map_cons, List.map_nil, String.ofList_toList]
  rfl

theorem perform_error {machine : Machine} {now : Instant} {op : StoreOp} {e : StoreError}
    {state : AnyStore × Machine}
    (h : op.perform (AnyStore.calls now) (.request jar, machine) = (.error e, state)) :
    state = (.request jar, machine) := by
  cases hop : carries op with
  | true =>
    obtain ⟨reply, haccepted⟩ := perform_carried jar machine now hop
    rw [haccepted] at h
    cases h
  | false =>
    obtain ⟨key, hsame⟩ := perform_rejected jar machine now hop
    rw [hsame] at h
    cases h
    rfl

theorem printable_line (hname : isToken name = true) (hchange : IsSound change)
    (hpath : ∀ c ∈ jar.path.toList, IsPrintable c) :
    ∀ c ∈ (jar.line name change).toList, IsPrintable c := by
  intro c hc
  rw [toList_line hchange] at hc
  rcases mem_intercalate hc with rfl | ⟨part, hpart, hmem⟩
  · decide
  · obtain ⟨text, htext, rfl⟩ := List.mem_map.mp hpart
    rcases of_mem_lineParts hname hchange htext hmem with ⟨hprintable, -⟩ | hmem
    · exact hprintable
    · exact hpath c hmem

/-- What a jar tells of a key is sound, and comes from the latest accepted call of the key. -/
theorem Told.sound {start : RequestJar} {past : StoreHistory} (h : Told start past jar)
    (hget : jar.changes.get? name = some change) :
    isToken name = true ∧ IsSound change ∧
      ∃ now op, lastCall name past = some (now, op) ∧ changeOf op = some change := by
  rw [h.changes] at hget
  obtain ⟨⟨now, op⟩, hlast, hchange⟩ := Option.bind_eq_some_iff.mp hget
  obtain ⟨hmem, hwrites⟩ := mem_of_lastCall hlast
  have hcarried := h.carried _ hmem
  refine ⟨?_, ?_, now, op, hlast, hchange⟩
  · cases op with
    | get => cases hchange
    | has => cases hchange
    | set key value ttl =>
      cases of_decide_eq_true hwrites
      exact (Bool.and_eq_true_iff.mp hcarried).1
    | remove key =>
      cases of_decide_eq_true hwrites
      exact hcarried
  · cases op with
    | get => cases hchange
    | has => cases hchange
    | set key value ttl =>
      cases hchange
      exact ⟨(Bool.and_eq_true_iff.mp hcarried).2, Int.le_max_right _ _⟩
    | remove key =>
      cases hchange
      trivial

theorem exists_of_mem_finish {text : String} (h : text ∈ jar.finish) :
    ∃ name change, jar.changes.get? name = some change ∧ text = jar.line name change := by
  obtain ⟨⟨name, change⟩, hmem, rfl⟩ := List.mem_map.mp h
  exact ⟨name, change, SortedMap.get?_of_mem hmem, rfl⟩

end RequestJar

/-- A jar of cookies, from any request, is called with any keys and values. A rejected call changes
nothing. Each header in the end is printable, and is cut at semicolons into a pair and the attributes
of the jar; the pair, cut at its first equals sign, gives back a token and what the latest accepted
call wrote for it. -/
theorem finished_cookies_cut_back (header : Option String) {path : String}
    (printable : ∀ c ∈ path.toList, IsPrintable c ∧ c ≠ ';') (secure : Bool) (machine : Machine)
    (past : StoreHistory) :
    let start : AnyStore × Machine :=
      (.request { RequestJar.ofHeader header with path, secure }, machine)
    ∃ jar, AnyStore.after start past = (.request jar, machine) ∧
      (∀ (now : Instant) (op : StoreOp) e state,
        op.perform (AnyStore.calls now) (.request jar, machine) = (.error e, state) →
          state = (.request jar, machine)) ∧
      ∀ line ∈ jar.finish, (∀ c ∈ line.toList, IsPrintable c) ∧ ∃ (key value : String) (n : Nat),
        (splitAll ';' line.toList).map String.ofList =
          [key ++ "=" ++ value, " Path=" ++ path, " Max-Age=" ++ toString n, " SameSite=Lax"] ++
            (if secure then [" Secure"] else []) ∧
        isToken key = true ∧
        splitFirst? '=' (key ++ "=" ++ value).toList = some (key.toList, value.toList) ∧
        ∃ now op, lastCall key (AnyStore.accepted start past) = some (now, op) ∧
          match op with
          | .set _ written ttl => value = written.expose ∧ n = max ttl.seconds 0
          | .remove _ => value = "" ∧ n = 0
          | .get _ | .has _ => False := by
  intro start
  obtain ⟨jar, hafter, htold⟩ := RequestJar.Told.of_after
    { RequestJar.ofHeader header with path, secure } (RequestJar.changes_ofHeader header) machine past
  refine ⟨jar, hafter, fun now op e state => RequestJar.perform_error, fun line hline => ?_⟩
  have hpath : jar.path = path := htold.path
  have hsecure : jar.secure = secure := htold.secure
  obtain ⟨key, change, hget, rfl⟩ := RequestJar.exists_of_mem_finish hline
  obtain ⟨htoken, hsound, now, op, hlast, hchange⟩ := htold.sound hget
  have hwhole : ';' ∉ jar.path.toList := fun hmem => (printable _ (hpath ▸ hmem)).2 rfl
  have hcut := RequestJar.cut_line htoken hsound hwhole
  rw [hpath, hsecure] at hcut
  refine ⟨RequestJar.printable_line htoken hsound fun c hc => (printable c (hpath ▸ hc)).1,
    key, (RequestJar.told change).1, (RequestJar.told change).2, hcut, htoken, cut_pair htoken _,
    now, op, hlast, ?_⟩
  cases op with
  | get => cases hchange
  | has => cases hchange
  | set _ written ttl =>
    cases hchange
    exact ⟨rfl, Int.toNat_of_nonneg (Int.le_max_right _ _)⟩
  | remove _ =>
    cases hchange
    exact ⟨rfl, rfl⟩

/-- A jar that is secure, and calls of which one would cut a header. -/
def securedJar : AnyStore × Machine :=
  (.request { RequestJar.ofHeader (some "a=old; b=1") with path := "/app", secure := true },
    ⟨Disk.blank [], {}⟩)

def cookieCalls : StoreHistory :=
  [(.least, .set "a" ⟨"x; Domain=y"⟩ defaultTtl), (.least, .remove "b"),
    (.least, .set "a" ⟨"v=w"⟩ defaultTtl)]

/-- The theorem at a jar that rejects a value with a semicolon. -/
theorem finished_cookies_cut_back_of_rejected :
    (∀ c ∈ "/app".toList, IsPrintable c ∧ c ≠ ';') ∧
    ∃ jar, AnyStore.after securedJar cookieCalls = (.request jar, ⟨Disk.blank [], {}⟩) ∧
      jar.finish = ["a=v=w; Path=/app; Max-Age=604800; SameSite=Lax; Secure",
        "b=; Path=/app; Max-Age=0; SameSite=Lax; Secure"] ∧
      ∀ line ∈ jar.finish, (∀ c ∈ line.toList, IsPrintable c) ∧ ∃ (key value : String) (n : Nat),
        isToken key = true ∧ (splitAll ';' line.toList).map String.ofList =
          [key ++ "=" ++ value, " Path=" ++ "/app", " Max-Age=" ++ toString n, " SameSite=Lax",
            " Secure"] := by
  have hpath : ∀ c ∈ "/app".toList, IsPrintable c ∧ c ≠ ';' :=
    fun c hc => plain_of_all (by decide) hc
  obtain ⟨jar, hafter, -, hlines⟩ := finished_cookies_cut_back (some "a=old; b=1") hpath true
    ⟨Disk.blank [], {}⟩ cookieCalls
  have hfinish : jar.finish = ["a=v=w; Path=/app; Max-Age=604800; SameSite=Lax; Secure",
      "b=; Path=/app; Max-Age=0; SameSite=Lax; Secure"] := by
    have hends := congrArg (fun state => AnyStore.headers state.1) hafter
    exact hends.symm.trans (by decide +kernel)
  refine ⟨hpath, jar, hafter, hfinish, fun line hline => ?_⟩
  obtain ⟨hprintable, key, value, n, hsplit, htoken, -, -⟩ := hlines line hline
  exact ⟨hprintable, key, value, n, htoken, hsplit⟩

end BearerSession
