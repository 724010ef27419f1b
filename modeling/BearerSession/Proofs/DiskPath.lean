import BearerSession.Proofs.DiskReplace

namespace BearerSession

section Splitting

variable {c : Char} {xs ys : List Char}

theorem splitAll_ne_nil (c : Char) (xs : List Char) : splitAll c xs ≠ [] := by
  cases xs with
  | nil => simp [splitAll]
  | cons x xs =>
    unfold splitAll
    split
    · simp
    · split <;> simp

theorem splitAll_append (c : Char) (xs ys : List Char) :
    splitAll c (xs ++ c :: ys) = splitAll c xs ++ splitAll c ys := by
  induction xs with
  | nil => simp [splitAll]
  | cons x xs ih =>
    rw [List.cons_append, splitAll, splitAll, ih]
    split
    next => rfl
    next =>
      cases hxs : splitAll c xs with
      | nil => exact absurd hxs (splitAll_ne_nil c xs)
      | cons part parts => rfl

theorem splitAll_of_notMem (h : c ∉ xs) : splitAll c xs = [xs] := by
  induction xs with
  | nil => rfl
  | cons x xs ih =>
    have hx : x ≠ c := fun heq => h (heq ▸ List.mem_cons_self)
    rw [splitAll, if_neg hx, ih fun hm => h (List.mem_cons_of_mem x hm)]

end Splitting

namespace Path

/-- A path in reverse begins with its last part. -/
theorem exists_last (cs : List Char) :
    ∃ part, '/' ∉ part ∧ (cs = part ∨ ∃ up, cs = part ++ '/' :: up) := by
  induction cs with
  | nil => exact ⟨[], List.not_mem_nil, .inl rfl⟩
  | cons c cs ih =>
    by_cases hc : c = '/'
    · exact ⟨[], List.not_mem_nil, .inr ⟨cs, by rw [hc]; rfl⟩⟩
    · obtain ⟨part, hslash, hrest⟩ := ih
      refine ⟨c :: part, by simp [hslash, Ne.symm hc], ?_⟩
      rcases hrest with rfl | ⟨up, rfl⟩
      · exact .inl rfl
      · exact .inr ⟨up, rfl⟩

theorem dropWhile_of_notMem {part : List Char} (hslash : '/' ∉ part) (rest : List Char) :
    (part ++ rest).dropWhile (· ≠ '/') = rest.dropWhile (· ≠ '/') := by
  induction part with
  | nil => rfl
  | cons c part ih =>
    have hc : c ≠ '/' := fun heq => hslash (heq ▸ List.mem_cons_self)
    rw [List.cons_append, List.dropWhile_cons_of_pos (by simp [hc])]
    exact ih fun hm => hslash (List.mem_cons_of_mem c hm)

theorem strip_of_step {part : List Char} (hslash : '/' ∉ part) (hne : part ≠ [])
    (hdot : part ≠ ['.']) (n : Nat) (rest : List Char) : strip n (part ++ rest) = part ++ rest := by
  cases n with
  | zero => rfl
  | succ n =>
    cases part with
    | nil => exact absurd rfl hne
    | cons a part =>
      have ha : a ≠ '/' := fun heq => hslash (heq ▸ List.mem_cons_self)
      unfold strip
      split
      next heq => exact absurd (List.cons.inj heq).1 ha
      next heq => exact absurd (List.cons.inj heq).1 ha
      next heq =>
        cases part with
        | nil =>
          cases heq
          exact absurd rfl hdot
        | cons b part =>
          have hb : b = '/' := (List.cons.inj (List.cons.inj heq).2).1
          exact absurd (List.mem_cons_of_mem a (hb ▸ List.mem_cons_self)) hslash
      next => rfl

/-- Where a path starts is not stripped. -/
theorem getLast?_strip (n : Nat) (cs : List Char) : (strip n cs).getLast? = cs.getLast? := by
  fun_induction strip n cs with
  | case1 => rfl
  | case2 => rfl
  | case3 n rest hne ih =>
    cases rest with
    | nil => exact absurd rfl hne
    | cons c rest => rw [ih, List.getLast?_cons_cons]
  | case4 n rest ih => rw [ih, List.getLast?_cons_cons]
  | case5 => rfl

/-- The end of a path that is stripped leads nowhere. -/
theorem steps_strip (n : Nat) (cs : List Char) :
    (splitAll '/' (strip n cs).reverse).filter isStep =
      (splitAll '/' cs.reverse).filter isStep := by
  fun_induction strip n cs with
  | case1 => rfl
  | case2 => rfl
  | case3 n rest hne ih =>
    rw [ih, List.reverse_cons, splitAll_append, List.filter_append]
    simp [splitAll, isStep]
  | case4 n rest ih =>
    have hslash : ('/' :: rest).reverse = rest.reverse ++ '/' :: [] := by simp
    have hdot : ('.' :: '/' :: rest).reverse = rest.reverse ++ '/' :: ['.'] := by simp
    rw [ih, hslash, hdot, splitAll_append, splitAll_append, List.filter_append, List.filter_append]
    simp [splitAll, isStep]
  | case5 => rfl

theorem isAbsolute_ofList_reverse (cs : List Char) :
    isAbsolute (String.ofList cs.reverse) = decide (cs.getLast? = some '/') := by
  unfold isAbsolute
  rw [String.toList_ofList, List.head?_reverse]

section Parent

variable {path : String} {part up : List Char}

/-- Whether the last part of a path, in reverse, is the name of a file. -/
structure IsName (part : List Char) : Prop where
  slash : '/' ∉ part
  nonempty : part ≠ []
  dot : part ≠ ['.']

theorem isName_of_isStep (hslash : '/' ∉ part) (h : Path.isStep part.reverse = true) :
    IsName part := by
  refine ⟨hslash, ?_, ?_⟩
  · rintro rfl
    cases h
  · rintro rfl
    cases h

theorem parent?_single (h : IsName part) (hpath : path.toList.reverse = part) :
    parent? path = some "" := by
  have hstrip : strip path.length part = part := by
    have hs := strip_of_step h.slash h.nonempty h.dot path.length []
    rwa [List.append_nil] at hs
  have hroot : part ≠ ['/'] := fun heq => h.slash (heq ▸ List.mem_cons_self)
  have hdrop : part.dropWhile (· ≠ '/') = [] := by
    have hd := dropWhile_of_notMem h.slash []
    rwa [List.append_nil] at hd
  unfold parent?
  rw [hpath]
  dsimp only
  rw [hstrip, if_neg (by simp [h.nonempty, hroot]), hdrop]

theorem parent?_below (h : IsName part) (hpath : path.toList.reverse = part ++ '/' :: up) :
    parent? path = some (String.ofList (strip path.length ('/' :: up)).reverse) := by
  have hstrip := strip_of_step h.slash h.nonempty h.dot path.length ('/' :: up)
  have hroot : part ++ '/' :: up ≠ ['/'] := by
    cases part with
    | nil => exact absurd rfl h.nonempty
    | cons c part => simp
  have hdrop : (part ++ '/' :: up).dropWhile (· ≠ '/') = '/' :: up := by
    rw [dropWhile_of_notMem h.slash, List.dropWhile_cons_of_neg (by simp)]
  unfold parent?
  rw [hpath]
  dsimp only
  rw [hstrip, if_neg (by simp [hroot]), hdrop]

theorem isStep_of_namesFile {last : List Char} (h : namesDirectory path = false)
    (hlast : (parts path).getLast? = some last) : isStep last = true := by
  unfold namesDirectory at h
  rw [hlast] at h
  simp only [Bool.or_eq_false_iff, Bool.not_eq_false'] at h
  exact h.1

theorem parts_single (hslash : '/' ∉ part) (hpath : path.toList.reverse = part) :
    parts path = [part.reverse] := by
  have hcs : path.toList = part.reverse := by rw [← hpath, List.reverse_reverse]
  unfold parts
  rw [hcs, splitAll_of_notMem fun hm => hslash (List.mem_reverse.mp hm)]

theorem parts_below (hslash : '/' ∉ part) (hpath : path.toList.reverse = part ++ '/' :: up) :
    parts path = splitAll '/' up.reverse ++ [part.reverse] := by
  have hcs : path.toList = up.reverse ++ '/' :: part.reverse := by
    have hr := congrArg List.reverse hpath
    simpa using hr
  unfold parts
  rw [hcs, splitAll_append, splitAll_of_notMem fun hm => hslash (List.mem_reverse.mp hm)]

theorem isAbsolute_eq_getLast? (path : String) :
    isAbsolute path = decide (path.toList.reverse.getLast? = some '/') := by
  unfold isAbsolute
  rw [List.getLast?_reverse]

theorem isAbsolute_single (hslash : '/' ∉ part) (hpath : path.toList.reverse = part) :
    isAbsolute path = false := by
  rw [isAbsolute_eq_getLast?, hpath]
  exact decide_eq_false fun hlast => hslash (List.mem_of_getLast? hlast)

/-- The directory of a path below a slash starts where the path does. -/
theorem isAbsolute_below (hpath : path.toList.reverse = part ++ '/' :: up) (n : Nat) :
    isAbsolute (String.ofList (strip n ('/' :: up)).reverse) = isAbsolute path := by
  rw [isAbsolute_ofList_reverse, getLast?_strip, isAbsolute_eq_getLast?, hpath,
    List.getLast?_append, List.getLast?_cons, Option.some_or]

theorem steps_below (n : Nat) (up : List Char) :
    steps (String.ofList (strip n ('/' :: up)).reverse) =
      (splitAll '/' up.reverse).filter isStep := by
  unfold steps parts
  rw [String.toList_ofList, steps_strip, List.reverse_cons, splitAll_append, List.filter_append]
  simp [splitAll, isStep]

/-- A path that names a file takes one step more than the path of its directory. -/
theorem steps_parent (h : namesDirectory path = false) :
    ∃ last, steps path = steps ((parent? path).getD "") ++ [last] ∧
      isAbsolute ((parent? path).getD "") = isAbsolute path := by
  obtain ⟨part, hslash, hpath⟩ := exists_last path.toList.reverse
  refine ⟨part.reverse, ?_⟩
  -- The path is one part, or its last slash splits it.
  rcases hpath with hpath | ⟨up, hpath⟩
  · have hparts := parts_single hslash hpath
    have hlast : isStep part.reverse = true := isStep_of_namesFile h (by rw [hparts]; rfl)
    rw [parent?_single (isName_of_isStep hslash hlast) hpath, isAbsolute_single hslash hpath, steps,
      hparts, List.filter_cons_of_pos hlast]
    exact ⟨rfl, rfl⟩
  · have hparts := parts_below hslash hpath
    have hlast : isStep part.reverse = true := isStep_of_namesFile h (by rw [hparts]; simp)
    rw [parent?_below (isName_of_isStep hslash hlast) hpath, Option.getD_some, steps_below, steps,
      hparts, List.filter_append, List.filter_cons_of_pos hlast]
    exact ⟨rfl, isAbsolute_below hpath _⟩

end Parent

end Path

namespace Disk

variable {d d' : Disk} {path : String} {mode : Nat} {l x : Location}

theorem directory_of_foldlM {parts : List (List Char)} (h : parts.foldlM d.takeStep l = .ok x)
    (hx : d.at? x = some .directory) : d.at? l = some .directory := by
  cases parts with
  | nil =>
    cases h
    exact hx
  | cons part parts =>
    rw [List.foldlM_cons] at h
    unfold takeStep at h
    split at h
    next hl => exact hl
    next => cases h
    next => cases h

theorem makeSteps_of_foldlM {parts : List (List Char)} (h : parts.foldlM d.takeStep l = .ok x)
    (hx : d.at? x = some .directory) : d.makeSteps l parts = .ok d := by
  induction parts generalizing l with
  | nil => rfl
  | cons part parts ih =>
    have hl := directory_of_foldlM h hx
    rw [List.foldlM_cons, takeStep, hl] at h
    have hnext : parts.foldlM d.takeStep (Path.step l part) = .ok x := h
    rw [makeSteps, directory_of_foldlM hnext hx]
    exact ih hnext

theorem foldlM_takeStep {parts : List (List Char)} (h : parts.foldlM d.takeStep l = .ok x) :
    parts.foldl Path.step l = x := by
  induction parts generalizing l with
  | nil =>
    cases h
    rfl
  | cons part parts ih =>
    rw [List.foldlM_cons] at h
    unfold takeStep at h
    split at h
    next => exact ih h
    next => cases h
    next => cases h

theorem look_eq_directory (h : d.look path = .ok .directory) :
    ∃ x, d.follow path = .ok x ∧ d.at? x = some .directory := by
  unfold look at h
  split at h
  next => cases h
  next =>
    cases hf : d.follow path with
    | error e =>
      rw [hf] at h
      cases h
    | ok x =>
      rw [hf] at h
      simp only [bind, Except.bind] at h
      split at h
      next => cases h
      next hx => exact ⟨x, rfl, hx⟩
      next => split at h <;> cases h

theorem follow_here (path : String) :
    d.follow (if path.isEmpty then "." else path) = d.follow path := by
  split
  next hempty =>
    have hpath : path = "" := by simpa using hempty
    rw [hpath]
    rfl
  next => rfl

/-- What stands at the place that a path names. -/
def node? (d : Disk) (path : String) : Option DiskNode := d.at? (Path.resolve d.base path)

/-- A path whose directory is there leads to its place. -/
theorem follow_of_parent (hname : Path.namesDirectory path = false)
    (h : d.follow ((Path.parent? path).getD "") = .ok x) (hx : d.at? x = some .directory) :
    d.follow path = .ok (Path.resolve d.base path) := by
  obtain ⟨last, hsteps, habsolute⟩ := Path.steps_parent hname
  have hstart : Path.start d.base ((Path.parent? path).getD "") = Path.start d.base path := by
    unfold Path.start
    rw [habsolute]
  have hreach : d.follow path = .ok (Path.step x last) := by
    unfold follow at *
    rw [hsteps, List.foldlM_append, ← hstart, h]
    simp only [bind, Except.bind, List.foldlM_cons, List.foldlM_nil, takeStep, hx]
    rfl
  have hplaced : Path.resolve d.base path = Path.step x last := by
    unfold follow at hreach
    exact foldlM_takeStep hreach
  rw [hplaced]
  exact hreach

/-- Where a file may be put at a path, no directory above it is missing, and the path leads to its
place. -/
theorem IsWritable.reaches (h : d.IsWritable path mode) :
    d.makeDirectories ((Path.parent? path).getD "") = .ok d ∧
      d.follow path = .ok (Path.resolve d.base path) := by
  obtain ⟨d', h⟩ := h
  obtain ⟨hlook, -, hname, -, -⟩ := replaceFile_eq_ok_iff.mp h
  obtain ⟨x, hfollow, hx⟩ := look_eq_directory hlook
  rw [follow_here] at hfollow
  exact ⟨makeSteps_of_foldlM hfollow hx, follow_of_parent hname hfollow hx⟩

end Disk

end BearerSession
