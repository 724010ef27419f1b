import BearerSession.Proofs.CookieHeader
import Mathlib.Data.List.TakeWhile

namespace BearerSession

section Cutting

variable {c : Char} {cs : List Char} {parts : List (List Char)}

theorem intercalate_cons {part : List Char} (hne : parts ≠ []) :
    [c].intercalate (part :: parts) = part ++ c :: [c].intercalate parts := by
  cases parts with
  | nil => exact absurd rfl hne
  | cons next parts => rw [List.intercalate_cons_cons, List.append_assoc, List.singleton_append]

theorem intercalate_splitAll (c : Char) (cs : List Char) :
    [c].intercalate (splitAll c cs) = cs := by
  induction cs with
  | nil => rfl
  | cons x cs ih =>
    have hne := splitAll_ne_nil c cs
    rw [splitAll]
    split
    next hx => rw [intercalate_cons hne, ih, hx, List.nil_append]
    next =>
      cases hparts : splitAll c cs with
      | nil => exact absurd hparts hne
      | cons part parts =>
        rw [hparts] at ih
        cases parts with
        | nil => simpa using ih
        | cons next parts =>
          have hrest := List.cons_ne_nil next parts
          rw [intercalate_cons hrest] at ih
          dsimp only
          rw [intercalate_cons hrest, List.cons_append, ih]

theorem notMem_of_mem_splitAll (c : Char) (cs : List Char) : ∀ part ∈ splitAll c cs, c ∉ part := by
  induction cs with
  | nil => simp [splitAll]
  | cons x cs ih =>
    rw [splitAll]
    split
    next => simpa using ih
    next hx =>
      cases hparts : splitAll c cs with
      | nil => simpa using Ne.symm hx
      | cons part parts =>
        rw [hparts] at ih
        obtain ⟨hpart, hrest⟩ := List.forall_mem_cons.mp ih
        refine List.forall_mem_cons.mpr ⟨?_, hrest⟩
        simp [hpart, Ne.symm hx]

/-- The parts of a text are the texts without separators that make it up. -/
theorem splitAll_eq_iff :
    splitAll c cs = parts ↔ parts ≠ [] ∧ [c].intercalate parts = cs ∧ ∀ part ∈ parts, c ∉ part := by
  constructor
  · rintro rfl
    exact ⟨splitAll_ne_nil c cs, intercalate_splitAll c cs, notMem_of_mem_splitAll c cs⟩
  · rintro ⟨hne, rfl, hparts⟩
    rw [splitAll_intercalate hne, flatMap_splitAll hparts]

theorem splitFirst?_of_notMem (h : c ∉ cs) : splitFirst? c cs = none := by
  induction cs with
  | nil => rfl
  | cons x cs ih =>
    have hx : x ≠ c := fun heq => h (heq ▸ List.mem_cons_self)
    rw [splitFirst?, if_neg hx, ih fun hmem => h (List.mem_cons_of_mem x hmem)]
    rfl

/-- A text has no separator or is cut at the first one. -/
theorem cut_cases (c : Char) (cs : List Char) :
    c ∉ cs ∨ ∃ before after, c ∉ before ∧ cs = before ++ c :: after := by
  by_cases h : c ∈ cs
  · obtain ⟨before, after, rfl, hbefore⟩ := List.eq_append_cons_of_mem h
    exact .inr ⟨before, after, hbefore, rfl⟩
  · exact .inl h

end Cutting

/-- Whether a text is left of another without the characters of one kind at its two ends. -/
structure IsTrimmed (drop : Char → Bool) (cs core : List Char) : Prop where
  around : ∃ before after, cs = before ++ core ++ after ∧
    (∀ c ∈ before, drop c = true) ∧ ∀ c ∈ after, drop c = true
  first : ∀ c ∈ core.head?, drop c = false
  last : ∀ c ∈ core.getLast?, drop c = false

section Trimming

variable {drop : Char → Bool} {cs core before after : List Char} {c : Char}

theorem dropWhile_append (hbefore : ∀ c ∈ before, drop c = true)
    (hcs : ∀ c ∈ cs.head?, drop c = false) : (before ++ cs).dropWhile drop = cs := by
  rw [List.dropWhile_append_of_pos hbefore]
  cases cs with
  | nil => rfl
  | cons c cs => exact List.dropWhile_cons_of_neg (Bool.eq_false_iff.mp (hcs c rfl))

theorem head?_dropWhile (drop : Char → Bool) (cs : List Char) :
    ∀ c ∈ (cs.dropWhile drop).head?, drop c = false := by
  intro c hc
  have hhead := List.head?_dropWhile_not drop cs
  rw [hc] at hhead
  exact hhead

theorem IsTrimmed.eq (h : IsTrimmed drop cs core) : trimWhere drop cs = core := by
  obtain ⟨⟨before, after, rfl, hbefore, hafter⟩, hfirst, hlast⟩ := h
  cases core with
  | nil =>
    have hnone : (before ++ [] ++ after).dropWhile drop = [] :=
      List.dropWhile_eq_nil_iff.mpr (by simpa [or_imp, forall_and] using ⟨hbefore, hafter⟩)
    rw [trimWhere, hnone]
    rfl
  | cons c core =>
    have hfront : (before ++ (c :: core) ++ after).dropWhile drop = c :: core ++ after := by
      rw [List.append_assoc]
      exact dropWhile_append hbefore hfirst
    have hback : (c :: core ++ after).reverse.dropWhile drop = (c :: core).reverse := by
      rw [List.reverse_append]
      refine dropWhile_append (fun x hx => hafter x (List.mem_reverse.mp hx)) ?_
      rwa [List.head?_reverse]
    rw [trimWhere, hfront, hback, List.reverse_reverse]

theorem isTrimmed_trimWhere (drop : Char → Bool) (cs : List Char) :
    IsTrimmed drop cs (trimWhere drop cs) := by
  have hfront := List.takeWhile_append_dropWhile (p := drop) (l := cs)
  have hhead := head?_dropWhile drop cs
  unfold trimWhere
  generalize cs.dropWhile drop = rest at *
  have hback := List.takeWhile_append_dropWhile (p := drop) (l := rest.reverse)
  have hrest : rest = (rest.reverse.dropWhile drop).reverse ++
      (rest.reverse.takeWhile drop).reverse := by
    rw [← List.reverse_append, hback, List.reverse_reverse]
  refine ⟨⟨cs.takeWhile drop, (rest.reverse.takeWhile drop).reverse, ?_, ?_, ?_⟩, ?_, ?_⟩
  · rw [List.append_assoc, ← hrest, hfront]
  · exact fun c hc => List.mem_takeWhile_imp hc
  · exact fun c hc => List.mem_takeWhile_imp (List.mem_reverse.mp hc)
  · intro c hc
    refine hhead c ?_
    rw [hrest, List.head?_append, hc]
    rfl
  · rw [List.getLast?_reverse]
    exact head?_dropWhile drop rest.reverse

/-- Trimming leaves the one text that is left of another in this way. -/
theorem trimWhere_eq_iff : trimWhere drop cs = core ↔ IsTrimmed drop cs core :=
  ⟨fun h => h ▸ isTrimmed_trimWhere drop cs, IsTrimmed.eq⟩

theorem trimWhere_around (cs : List Char) (hbefore : ∀ c ∈ before, drop c = true)
    (hafter : ∀ c ∈ after, drop c = true) :
    trimWhere drop (before ++ cs ++ after) = trimWhere drop cs := by
  obtain ⟨⟨first, last, hcs, hfirst, hlast⟩, hhead, hend⟩ := isTrimmed_trimWhere drop cs
  refine trimWhere_eq_iff.mpr ⟨⟨before ++ first, last ++ after, ?_, ?_, ?_⟩, hhead, hend⟩
  · generalize trimWhere drop cs = core at *
    simp [hcs]
  · simpa [or_imp, forall_and] using ⟨hbefore, hfirst⟩
  · simpa [or_imp, forall_and] using ⟨hlast, hafter⟩

/-- A separator that is no blank stays where a text is trimmed, with the rest of what stands around
it. -/
theorem trimBlank_cut (hc : isBlank c = false) (before after : List Char) :
    ∃ before' after', trimBlank (before ++ c :: after) = before' ++ c :: after' ∧
      before' ⊆ before ∧ trimBlank before' = trimBlank before ∧
      trimBlank after' = trimBlank after := by
  have hbefore := List.takeWhile_append_dropWhile (p := isBlank) (l := before)
  have hafter := List.takeWhile_append_dropWhile (p := isBlank) (l := after.reverse)
  have hfirst : ∀ c ∈ before.takeWhile isBlank, isBlank c = true :=
    fun c hc => List.mem_takeWhile_imp hc
  have hlast : ∀ c ∈ (after.reverse.takeWhile isBlank).reverse, isBlank c = true :=
    fun c hc => List.mem_takeWhile_imp (List.mem_reverse.mp hc)
  have hend : (after.reverse.dropWhile isBlank).reverse ++
      (after.reverse.takeWhile isBlank).reverse = after := by
    rw [← List.reverse_append, hafter, List.reverse_reverse]
  refine ⟨before.dropWhile isBlank, (after.reverse.dropWhile isBlank).reverse, ?_, ?_, ?_, ?_⟩
  · refine trimWhere_eq_iff.mpr ⟨⟨_, _, ?_, hfirst, hlast⟩, ?_, ?_⟩
    · calc before ++ c :: after
          = (before.takeWhile isBlank ++ before.dropWhile isBlank) ++
              c :: ((after.reverse.dropWhile isBlank).reverse ++
                (after.reverse.takeWhile isBlank).reverse) := by rw [hbefore, hend]
        _ = _ := by simp only [List.append_assoc, List.cons_append]
    · rw [List.head?_append]
      cases hhead : (before.dropWhile isBlank).head? with
      | none => simpa using hc
      | some x =>
        have hx := head?_dropWhile isBlank before x hhead
        simpa using hx
    · rw [List.getLast?_append, List.getLast?_cons, List.getLast?_reverse]
      cases hhead : (after.reverse.dropWhile isBlank).head? with
      | none => simpa using hc
      | some x =>
        have hx := head?_dropWhile isBlank after.reverse x hhead
        simpa using hx
  · exact (List.dropWhile_suffix isBlank).subset
  · have htrim := trimWhere_around (before.dropWhile isBlank) hfirst
      (List.forall_mem_nil fun c => isBlank c = true)
    rw [List.append_nil, hbefore] at htrim
    exact htrim.symm
  · have htrim := trimWhere_around (after.reverse.dropWhile isBlank).reverse
      (List.forall_mem_nil fun c => isBlank c = true) hlast
    rw [List.nil_append, hend] at htrim
    exact htrim.symm

end Trimming

namespace RequestJar

/-- Whether a segment of a header defines a key as a value: around its first equals sign stand the
key, which is not empty, and the value. White space is trimmed off both, and then quotes off the
value. -/
def Defines (segment : List Char) (key value : String) : Prop :=
  ∃ before after text, segment = before ++ '=' :: after ∧ '=' ∉ before ∧
    IsTrimmed isBlank before key.toList ∧ key ≠ "" ∧
    IsTrimmed isBlank after text ∧ IsTrimmed (· = '"') text value.toList

/-- Whether a segment has no equals sign or nothing but white space before the first one. -/
def IsMalformed (segment : List Char) : Prop :=
  '=' ∉ segment ∨ ∃ before after, segment = before ++ '=' :: after ∧
    ∀ c ∈ before, c ≠ '=' ∧ isBlank c = true

/-- Whether segments without semicolons make up a header between its semicolons. -/
def IsCut (header : String) (segments : List (List Char)) : Prop :=
  segments ≠ [] ∧ [';'].intercalate segments = header.toList ∧ ∀ segment ∈ segments, ';' ∉ segment

/-- The value that a segment defines for a key. -/
def valueIn? (key : String) (segment : List Char) : Option String :=
  (readPair? segment).bind fun e => if e.1 = key then some e.2 else none

section Segments

variable {segment before after : List Char} {key value : String}

theorem readPair?_of_notMem (h : '=' ∉ segment) : readPair? segment = none := by
  have htrimmed : '=' ∉ trimBlank segment := by
    obtain ⟨first, last, hsegment, -⟩ := (isTrimmed_trimWhere isBlank segment).around
    intro hmem
    refine h (hsegment ▸ ?_)
    exact List.mem_append_left _ (List.mem_append_right _ hmem)
  rw [readPair?, splitFirst?_of_notMem htrimmed]

/-- The pair of a segment is read from what stands around its first equals sign. -/
theorem readPair?_cut (h : '=' ∉ before) (after : List Char) :
    readPair? (before ++ '=' :: after) =
      if trimBlank before = [] then none
      else some (String.ofList (trimBlank before),
        String.ofList (trimWhere (· = '"') (trimBlank after))) := by
  obtain ⟨before', after', htrim, hsub, hbefore, hafter⟩ :=
    trimBlank_cut (c := '=') (by decide) before after
  unfold readPair?
  rw [htrim, splitFirst?_append fun hmem => h (hsub hmem)]
  simp only [hbefore, hafter]

theorem readPair?_eq_some_iff :
    readPair? segment = some (key, value) ↔ Defines segment key value := by
  constructor
  · intro h
    rcases cut_cases '=' segment with hnone | ⟨before, after, hbefore, rfl⟩
    · rw [readPair?_of_notMem hnone] at h
      cases h
    · rw [readPair?_cut hbefore] at h
      split at h
      next => cases h
      next hname =>
        cases h
        refine ⟨before, after, trimBlank after, rfl, hbefore, ?_, ?_, isTrimmed_trimWhere _ _, ?_⟩
        · rw [String.toList_ofList]
          exact isTrimmed_trimWhere _ _
        · exact fun hempty => hname (by simpa using congrArg String.toList hempty)
        · rw [String.toList_ofList]
          exact isTrimmed_trimWhere _ _
  · rintro ⟨before, after, text, rfl, hbefore, hkey, hne, htext, hvalue⟩
    have hname : trimBlank before = key.toList := hkey.eq
    have hafter : trimBlank after = text := htext.eq
    rw [readPair?_cut hbefore, hname, hafter, hvalue.eq, if_neg (by simpa using hne)]
    simp only [String.ofList_toList]

theorem valueIn?_eq_some_iff : valueIn? key segment = some value ↔ Defines segment key value := by
  rw [valueIn?, ← readPair?_eq_some_iff, Option.bind_eq_some_iff]
  constructor
  · rintro ⟨⟨name, text⟩, hread, hvalue⟩
    split at hvalue
    next hname =>
      cases hvalue
      cases hname
      exact hread
    next => cases hvalue
  · exact fun h => ⟨_, h, if_pos rfl⟩

theorem valueIn?_eq_none_iff :
    valueIn? key segment = none ↔ ∀ value, ¬ Defines segment key value := by
  simp only [Option.eq_none_iff_forall_ne_some, ne_eq, valueIn?_eq_some_iff]

theorem not_defines_of_isMalformed (h : IsMalformed segment) (key value : String) :
    ¬ Defines segment key value := by
  rw [← readPair?_eq_some_iff]
  rcases h with hnone | ⟨before, after, rfl, hbefore⟩
  · rw [readPair?_of_notMem hnone]
    exact nofun
  · have hblank : trimBlank before = [] := by
      refine IsTrimmed.eq ⟨⟨before, [], ?_, fun c hc => (hbefore c hc).2, nofun⟩, nofun, nofun⟩
      simp
    rw [readPair?_cut fun hmem => (hbefore _ hmem).1 rfl, if_pos hblank]
    exact nofun

end Segments

section Seeding

variable {header : String} {segments : List (List Char)} {key value : String} {now : Instant}

theorem isCut_iff : IsCut header segments ↔ splitAll ';' header.toList = segments :=
  splitAll_eq_iff.symm

/-- Each pair is inserted over those before it. -/
theorem get?_foldl_pairs (key : String) (segments : List (List Char)) (m : SortedMap Cookie) :
    let cookies : List (String × Cookie) :=
      (segments.filterMap readPair?).map fun (name, value) => (name, ⟨⟨value⟩, none⟩)
    (cookies.foldl (fun m e => m.insert e.1 e.2) m).get? key =
      ((segments.reverse.findSome? (valueIn? key)).map fun value => ⟨⟨value⟩, none⟩).or
        (m.get? key) := by
  intro cookies
  unfold cookies
  induction segments generalizing m with
  | nil => rfl
  | cons segment segments ih =>
    rw [List.reverse_cons, List.findSome?_append, List.filterMap_cons, List.findSome?_singleton]
    cases hread : readPair? segment with
    | none =>
      have hvalue : valueIn? key segment = none := by rw [valueIn?, hread]; rfl
      rw [hvalue, Option.or_none]
      exact ih m
    | some e =>
      have hvalue : valueIn? key segment = if e.1 = key then some e.2 else none := by
        rw [valueIn?, hread]
        rfl
      rw [List.map_cons, List.foldl_cons, ih, SortedMap.get?_insert, hvalue]
      by_cases hkey : e.1 = key
      · rw [if_pos hkey, if_pos hkey.symm]
        cases segments.reverse.findSome? (valueIn? key) <;> rfl
      · rw [if_neg hkey, if_neg (Ne.symm hkey), Option.or_none]

/-- Of the segments of a header the last one that defines a key decides. -/
theorem get?_cookies_ofHeader (header key : String) :
    (ofHeader (some header)).cookies.get? key =
      ((splitAll ';' header.toList).reverse.findSome? (valueIn? key)).map fun value =>
        ⟨⟨value⟩, none⟩ := by
  have hfold := get?_foldl_pairs key (splitAll ';' header.toList) .empty
  rw [SortedMap.get?_empty, Option.or_none] at hfold
  exact hfold

theorem get_ofHeader_some (header key : String) (now : Instant) :
    (ofHeader (some header)).get now key =
      ((splitAll ';' header.toList).reverse.findSome? (valueIn? key)).map Secret.mk := by
  rw [get, get?_cookies_ofHeader]
  cases (splitAll ';' header.toList).reverse.findSome? (valueIn? key) <;> rfl

theorem get_ofHeader_append (a b key : String) (now : Instant) :
    (ofHeader (some (a ++ ";" ++ b))).get now key =
      ((ofHeader (some b)).get now key).or ((ofHeader (some a)).get now key) := by
  have hsplit : splitAll ';' (a ++ ";" ++ b).toList =
      splitAll ';' a.toList ++ splitAll ';' b.toList := by
    rw [← splitAll_append]
    simp
  simp only [get_ofHeader_some, hsplit, List.reverse_append, List.findSome?_append]
  cases (splitAll ';' b.toList).reverse.findSome? (valueIn? key) <;> rfl

theorem get_ofHeader_eq_some_iff : (ofHeader (some header)).get now key = some ⟨value⟩ ↔
    ∃ before segment after, IsCut header (before ++ segment :: after) ∧ Defines segment key value ∧
      ∀ later ∈ after, ∀ other, ¬ Defines later key other := by
  have hlast : (ofHeader (some header)).get now key = some ⟨value⟩ ↔
      (splitAll ';' header.toList).reverse.findSome? (valueIn? key) = some value := by
    rw [get_ofHeader_some]
    cases (splitAll ';' header.toList).reverse.findSome? (valueIn? key) <;> simp
  rw [hlast, List.findSome?_eq_some_iff]
  constructor
  · rintro ⟨after, segment, before, hsegments, hsegment, hafter⟩
    refine ⟨before.reverse, segment, after.reverse, isCut_iff.mpr ?_,
      valueIn?_eq_some_iff.mp hsegment, fun later hlater => ?_⟩
    · rw [← List.reverse_inj, hsegments]
      simp
    · exact valueIn?_eq_none_iff.mp (hafter later (List.mem_reverse.mp hlater))
  · rintro ⟨before, segment, after, hcut, hsegment, hafter⟩
    refine ⟨after.reverse, segment, before.reverse, ?_, valueIn?_eq_some_iff.mpr hsegment,
      fun later hlater => ?_⟩
    · rw [isCut_iff.mp hcut]
      simp
    · exact valueIn?_eq_none_iff.mpr (hafter later (List.mem_reverse.mp hlater))

theorem get?_cookies_join (texts : List String) (key : String) :
    (ofHeader (some (";".intercalate texts))).cookies.get? key =
      ((texts.flatMap fun text => splitAll ';' text.toList).reverse.findSome? (valueIn? key)).map
        fun value => ⟨⟨value⟩, none⟩ := by
  rw [get?_cookies_ofHeader]
  by_cases hempty : texts = []
  · rw [hempty]
    rfl
  · have hjoined : (";".intercalate texts).toList = [';'].intercalate (texts.map String.toList) :=
      String.toList_intercalate
    rw [hjoined, splitAll_intercalate (by simpa using hempty), List.flatMap_map]

theorem ofHeader_eq {a b : String}
    (h : ∀ key, (ofHeader (some a)).cookies.get? key = (ofHeader (some b)).cookies.get? key) :
    ofHeader (some a) = ofHeader (some b) :=
  congrArg (fun cookies => ({ cookies } : RequestJar)) (SortedMap.ext_get? h)

theorem ofHeader_malformed {segment : String} (hcut : ';' ∉ segment.toList)
    (h : IsMalformed segment.toList) (before after : List String) :
    ofHeader (some (";".intercalate (before ++ segment :: after))) =
      ofHeader (some (";".intercalate (before ++ after))) := by
  refine ofHeader_eq fun key => ?_
  have hnone : valueIn? key segment.toList = none :=
    valueIn?_eq_none_iff.mpr (not_defines_of_isMalformed h key)
  simp only [get?_cookies_join, List.flatMap_append, List.flatMap_cons, splitAll_of_notMem hcut,
    List.reverse_append, List.findSome?_append, List.reverse_singleton, List.findSome?_singleton,
    hnone, Option.or_none]

theorem get_ofHeader_now (header : Option String) (now t : Instant) (key : String) :
    (ofHeader header).get now key = (ofHeader header).get t key := by
  cases header with
  | none => rfl
  | some header => rw [get_ofHeader_some, get_ofHeader_some]

theorem after_reads (jar : RequestJar) (machine : Machine) {reads : StoreHistory}
    (h : ∀ u ∈ reads, ∀ key, u.2.writes key = false) :
    AnyStore.after (.request jar, machine) reads = (.request jar, machine) := by
  induction reads with
  | nil => rfl
  | cons u reads ih =>
    obtain ⟨now, op⟩ := u
    obtain ⟨hop, hreads⟩ := List.forall_mem_cons.mp h
    rw [AnyStore.after, ih hreads]
    cases op with
    | get key => rfl
    | has key => rfl
    | set key value ttl => exact absurd (hop key) (by simp [StoreOp.writes])
    | remove key => exact absurd (hop key) (by simp [StoreOp.writes])

end Seeding

end RequestJar

open RequestJar (Defines IsCut IsMalformed)

/-- A jar that was seeded from a header reads, for each key, what the last segment defines that
defines the key, and of two headers joined what the second one says if it says anything. Malformed
segments change nothing, wherever they stand. What was seeded never expires, and as long as the jar
is only read it stays as it is and has nothing to tell. -/
theorem seeded_jar_reads_last_segments :
    (∀ (a b key : String) (now : Instant),
      (RequestJar.ofHeader (some (a ++ ";" ++ b))).get now key =
        ((RequestJar.ofHeader (some b)).get now key).or
          ((RequestJar.ofHeader (some a)).get now key)) ∧
    (∀ (header key value : String) (now : Instant),
      (RequestJar.ofHeader (some header)).get now key = some ⟨value⟩ ↔
        ∃ before segment after, IsCut header (before ++ segment :: after) ∧
          Defines segment key value ∧ ∀ later ∈ after, ∀ other, ¬ Defines later key other) ∧
    (∀ (before after : List String) (segment : String), ';' ∉ segment.toList →
      IsMalformed segment.toList →
      RequestJar.ofHeader (some (";".intercalate (before ++ segment :: after))) =
        RequestJar.ofHeader (some (";".intercalate (before ++ after)))) ∧
    ∀ (header : Option String) (path : String) (secure : Bool) (machine : Machine)
      (reads : StoreHistory), (∀ u ∈ reads, ∀ key, u.2.writes key = false) →
      let jar : RequestJar := { RequestJar.ofHeader header with path, secure }
      AnyStore.after (.request jar, machine) reads = (.request jar, machine) ∧ jar.finish = [] ∧
        ∀ (now t : Instant) (key : String),
          jar.get now key = (RequestJar.ofHeader header).get t key := by
  refine ⟨RequestJar.get_ofHeader_append, fun _ _ _ _ => RequestJar.get_ofHeader_eq_some_iff,
    fun before after _ hcut h => RequestJar.ofHeader_malformed hcut h before after, ?_⟩
  intro header path secure machine reads hreads jar
  have hchanges : jar.changes = .empty := RequestJar.changes_ofHeader header
  have hfinish : jar.finish = [] := by
    unfold RequestJar.finish
    rw [hchanges]
    rfl
  exact ⟨RequestJar.after_reads jar machine hreads, hfinish, RequestJar.get_ofHeader_now header⟩

/-- The theorem at a header that names a cookie twice, with a segment between that is none: white
space is trimmed off before the quotes, and within them it stays. -/
theorem seeded_jar_reads_last_segments_of_repeated :
    let header := "a=1;none; a = \" b=c\""
    (RequestJar.ofHeader (some header)).get .least "a" = some ⟨" b=c"⟩ ∧
      RequestJar.ofHeader (some header) = RequestJar.ofHeader (some "a=1; a = \" b=c\"") := by
  intro header
  obtain ⟨-, hlast, hmalformed, -⟩ := seeded_jar_reads_last_segments
  have hcut : IsCut header ["a=1".toList, "none".toList, " a = \" b=c\"".toList] := by
    refine ⟨List.cons_ne_nil _ _, ?_, ?_⟩ <;> decide +kernel
  have hdefines : Defines " a = \" b=c\"".toList "a" " b=c" :=
    ⟨" a ".toList, " \" b=c\"".toList, "\" b=c\"".toList, by decide +kernel, by decide,
      trimWhere_eq_iff.mp (by decide), by decide, trimWhere_eq_iff.mp (by decide),
      trimWhere_eq_iff.mp (by decide)⟩
  refine ⟨(hlast header "a" " b=c" .least).mpr
    ⟨["a=1".toList, "none".toList], _, [], hcut, hdefines, nofun⟩, ?_⟩
  exact hmalformed ["a=1"] [" a = \" b=c\""] "none" (by decide) (.inl (by decide))

end BearerSession
