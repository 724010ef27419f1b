import BearerSession.Proofs.CookieLine

namespace BearerSession

section Trimming

variable {drop : Char → Bool} {cs : List Char}

theorem dropWhile_of_forall (h : ∀ c ∈ cs, drop c = false) : cs.dropWhile drop = cs := by
  cases cs with
  | nil => rfl
  | cons c cs =>
    have hc : ¬ drop c = true := Bool.eq_false_iff.mp (h c List.mem_cons_self)
    exact List.dropWhile_cons_of_neg hc

theorem trimWhere_of_forall (h : ∀ c ∈ cs, drop c = false) : trimWhere drop cs = cs := by
  have hreverse : cs.reverse.dropWhile drop = cs.reverse :=
    dropWhile_of_forall fun c hc => h c (List.mem_reverse.mp hc)
  rw [trimWhere, dropWhile_of_forall h, hreverse, List.reverse_reverse]

theorem isBlank_of_isVisible {c : Char} (h : isVisible c = true) : isBlank c = false := by
  obtain ⟨hlow, hhigh⟩ := isVisible_iff.mp h
  simp only [isBlank, Bool.or_eq_false_iff, Bool.and_eq_false_iff, decide_eq_false_iff_not]
  omega

theorem trimBlank_of_visible (h : ∀ c ∈ cs, isVisible c = true) : trimBlank cs = cs :=
  trimWhere_of_forall fun c hc => isBlank_of_isVisible (h c hc)

end Trimming

/-- The header of a request with some cookies. -/
def cookieHeader (cookies : List (String × String)) : String :=
  "; ".intercalate (cookies.map fun (name, value) => name ++ "=" ++ value)

/-- Whether a request carries the cookies of a browser, in any order. One without cookies may come
without a header. -/
inductive Sends (browser : SortedMap String) : Option String → Prop
  | header {cookies : List (String × String)} : cookies.Perm browser.toList →
      Sends browser (some (cookieHeader cookies))
  | absent : browser = .empty → Sends browser none

namespace RequestJar

variable {name value : String} {cookies : List (String × String)} {browser : SortedMap String}

theorem readPair?_space (part : List Char) : readPair? (' ' :: part) = readPair? part := by
  have htrim : trimBlank (' ' :: part) = trimBlank part := rfl
  unfold readPair?
  rw [htrim]

-- The space after a semicolon stays with the next pair, and is trimmed off it.
theorem filterMap_splitAll_space (cs : List Char) :
    (splitAll ';' (' ' :: cs)).filterMap readPair? = (splitAll ';' cs).filterMap readPair? := by
  cases hcs : splitAll ';' cs with
  | nil => exact absurd hcs (splitAll_ne_nil ';' cs)
  | cons part parts =>
    have hsplit : splitAll ';' (' ' :: cs) = (' ' :: part) :: parts := by
      rw [splitAll, if_neg (by decide), hcs]
    rw [hsplit, List.filterMap_cons, List.filterMap_cons, readPair?_space]

/-- A pair is read back: nothing is trimmed off its name or its value. -/
theorem readPair?_pair (h : IsCookiePair name value) :
    readPair? (name ++ "=" ++ value).toList = some (name, value) := by
  have htext : trimBlank (name ++ "=" ++ value).toList = (name ++ "=" ++ value).toList :=
    trimBlank_of_visible fun c hc => (of_mem_pair h hc).1
  have hname : trimBlank name.toList = name.toList :=
    trimBlank_of_visible fun c hc => (of_mem_token h.1 hc).1
  have hvalue : trimBlank value.toList = value.toList :=
    trimBlank_of_visible fun c hc => (of_mem_octets h.2 hc).1
  have hquotes : trimWhere (· = '"') value.toList = value.toList := by
    refine trimWhere_of_forall fun c hc => decide_eq_false ?_
    rintro rfl
    exact (of_mem_octets h.2 hc).2 (by decide)
  unfold readPair?
  rw [htext, cut_pair h.1]
  simp only [hname, hvalue, hquotes, if_neg (ne_nil_of_token h.1), String.ofList_toList]

theorem readPairs_cookieHeader (h : ∀ e ∈ cookies, IsCookiePair e.1 e.2) :
    (splitAll ';' (cookieHeader cookies).toList).filterMap readPair? = cookies := by
  induction cookies with
  | nil => rfl
  | cons e cookies ih =>
    obtain ⟨name, value⟩ := e
    have hcookie : IsCookiePair name value := h _ List.mem_cons_self
    have hsplit : splitAll ';' (name ++ "=" ++ value).toList = [(name ++ "=" ++ value).toList] :=
      splitAll_of_notMem fun hmem => (of_mem_pair hcookie hmem).2 rfl
    have hrest := ih fun e he => h e (List.mem_cons_of_mem _ he)
    cases cookies with
    | nil =>
      have htext : cookieHeader [(name, value)] = name ++ "=" ++ value := rfl
      rw [htext, hsplit, List.filterMap_cons, readPair?_pair hcookie]
      rfl
    | cons next cookies =>
      have htext : (cookieHeader ((name, value) :: next :: cookies)).toList =
          (name ++ "=" ++ value).toList ++ ';' :: ' ' :: (cookieHeader (next :: cookies)).toList := by
        simp [cookieHeader]
      rw [htext, splitAll_append, hsplit, List.filterMap_append, filterMap_splitAll_space, hrest,
        List.filterMap_cons, readPair?_pair hcookie]
      rfl

/-- A jar from the header of a browser holds what the browser holds. -/
theorem ofHeader_of_sends {header : Option String} (hsends : Sends browser header)
    (h : ∀ e ∈ browser.entries, IsCookiePair e.1 e.2) (key : String) :
    (ofHeader header).cookies.get? key = (browser.get? key).map fun value => ⟨⟨value⟩, none⟩ := by
  cases hsends with
  | absent hempty =>
    rw [hempty]
    rfl
  | @header cookies hperm =>
    have hpairs : (splitAll ';' (cookieHeader cookies).toList).filterMap readPair? = cookies :=
      readPairs_cookieHeader fun e he => h e (hperm.mem_iff.mp he)
    have hcookies : (ofHeader (some (cookieHeader cookies))).cookies =
        SortedMap.ofList (cookies.map fun e => (e.1, ⟨⟨e.2⟩, none⟩)) := by
      unfold ofHeader
      simp only [hpairs]
    have hmap := SortedMap.get?_ofList_map (fun value : String => (⟨⟨value⟩, none⟩ : Cookie))
      cookies key
    rw [SortedMap.ofList_of_perm hperm] at hmap
    rw [hcookies]
    exact hmap

theorem get_ofHeader {header : Option String} (hsends : Sends browser header)
    (h : ∀ e ∈ browser.entries, IsCookiePair e.1 e.2) (now : Instant) (key : String) :
    (ofHeader header).get now key = (browser.get? key).map Secret.mk := by
  unfold get
  rw [ofHeader_of_sends hsends h]
  cases browser.get? key <;> rfl

end RequestJar

end BearerSession
