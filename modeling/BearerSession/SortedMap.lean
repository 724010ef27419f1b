namespace BearerSession

/-- Entries in ascending order of distinct keys. -/
structure SortedMap (α : Type) where
  entries : List (String × α)
  ascending : entries.Pairwise (fun a b => a.1 < b.1)

namespace SortedMap

variable {α β : Type}

/-- Puts an entry at its place, over any entry of the same key. -/
def put (key : String) (value : α) : List (String × α) → List (String × α)
  | [] => [(key, value)]
  | entry :: rest =>
    if key < entry.1 then (key, value) :: entry :: rest
    else if key = entry.1 then (key, value) :: rest
    else entry :: put key value rest

/-- The value at a key of a list of entries. -/
def find? (key : String) : List (String × α) → Option α
  | [] => none
  | entry :: rest => if key = entry.1 then some entry.2 else find? key rest

theorem mem_put {key : String} {value : α} {es : List (String × α)} {e : String × α}
    (h : e ∈ put key value es) : e = (key, value) ∨ e ∈ es := by
  induction es with
  | nil => simpa [put] using h
  | cons entry rest ih =>
    unfold put at h
    split at h
    · simpa using h
    · split at h
      · rcases List.mem_cons.mp h with h | h
        · exact .inl h
        · exact .inr (List.mem_cons_of_mem _ h)
      · rcases List.mem_cons.mp h with h | h
        · exact .inr (h ▸ List.mem_cons_self)
        · rcases ih h with h | h
          · exact .inl h
          · exact .inr (List.mem_cons_of_mem _ h)

theorem put_ascending (key : String) (value : α) {es : List (String × α)}
    (h : es.Pairwise (fun a b => a.1 < b.1)) :
    (put key value es).Pairwise (fun a b => a.1 < b.1) := by
  induction es with
  | nil => simp [put]
  | cons entry rest ih =>
    obtain ⟨hhead, htail⟩ := List.pairwise_cons.mp h
    unfold put
    split
    case isTrue hlt =>
      refine List.pairwise_cons.mpr ⟨fun b hb => ?_, h⟩
      rcases List.mem_cons.mp hb with rfl | hb
      · exact hlt
      · exact String.lt_trans hlt (hhead b hb)
    case isFalse hlt =>
      split
      case isTrue heq => exact List.pairwise_cons.mpr ⟨fun b hb => heq ▸ hhead b hb, htail⟩
      case isFalse hne =>
        refine List.pairwise_cons.mpr ⟨fun b hb => ?_, ih htail⟩
        rcases mem_put hb with rfl | hb
        · have hle := String.not_lt.mp hlt
          rcases Classical.em (entry.1 < key) with hlt' | hge
          · exact hlt'
          · exact absurd (String.le_antisymm (String.not_lt.mp hge) hle) hne
        · exact hhead b hb

theorem find?_put (key key' : String) (value : α) (es : List (String × α)) :
    find? key' (put key value es) = if key' = key then some value else find? key' es := by
  induction es with
  | nil => simp [put, find?]
  | cons entry rest ih =>
    unfold put
    split
    · simp [find?]
    · split
      case isTrue heq => subst heq; simp only [find?]; split <;> rfl
      case isFalse hne =>
        simp only [find?, ih]
        by_cases h : key' = entry.1
        · subst h; simp [Ne.symm hne]
        · simp [h]

theorem find?_eq_some_mem {key : String} {value : α} {es : List (String × α)}
    (h : find? key es = some value) : (key, value) ∈ es := by
  induction es with
  | nil => simp [find?] at h
  | cons entry rest ih =>
    unfold find? at h
    split at h
    case isTrue heq =>
      cases h
      subst heq
      exact List.mem_cons_self
    case isFalse => exact List.mem_cons_of_mem _ (ih h)

theorem find?_eq_none_of_ne {key : String} {es : List (String × α)} (h : ∀ e ∈ es, e.1 ≠ key) :
    find? key es = none := by
  induction es with
  | nil => rfl
  | cons e es ih =>
    have hne : key ≠ e.1 := (h e List.mem_cons_self).symm
    simp [find?, hne, ih fun e he => h e (List.mem_cons_of_mem _ he)]

theorem find?_eq_none_of_lt {key : String} {es : List (String × α)}
    (h : ∀ e ∈ es, key < e.1) : find? key es = none :=
  find?_eq_none_of_ne fun e he heq => String.lt_irrefl key (heq ▸ h e he)

theorem distinct_of_ascending {es : List (String × α)} (h : es.Pairwise fun a b => a.1 < b.1) :
    es.Pairwise fun a b => a.1 ≠ b.1 :=
  h.imp fun {a b} hlt (heq : a.1 = b.1) => String.lt_irrefl b.1 (heq ▸ hlt)

theorem find?_filter (keep : String × α → Bool) (key : String) {es : List (String × α)}
    (h : es.Pairwise (fun a b => a.1 < b.1)) :
    find? key (es.filter keep) = (find? key es).filter fun v => keep (key, v) := by
  induction es with
  | nil => rfl
  | cons entry rest ih =>
    obtain ⟨hhead, htail⟩ := List.pairwise_cons.mp h
    by_cases heq : key = entry.1
    · subst heq
      have hnone : find? entry.1 rest = none := find?_eq_none_of_lt hhead
      cases hk : keep entry with
      | true => simp [find?, hk, Option.filter]
      | false =>
        simp only [List.filter_cons, hk, Bool.false_eq_true, if_false, ih htail, hnone]
        simp [find?, Option.filter, hk]
    · cases hk : keep entry <;> simp [find?, hk, heq, ih htail]

theorem find?_filter_key (keep : String → Bool) {key : String} (h : keep key = true)
    (es : List (String × α)) : find? key (es.filter fun e => keep e.1) = find? key es := by
  induction es with
  | nil => rfl
  | cons e es ih =>
    by_cases hkey : key = e.1
    · have hkeep : keep e.1 = true := hkey ▸ h
      simp [find?, hkey, hkeep]
    · cases hkeep : keep e.1 <;> simp [find?, hkeep, hkey, ih]

theorem eq_of_find?_eq {es fs : List (String × α)}
    (he : es.Pairwise (fun a b => a.1 < b.1)) (hf : fs.Pairwise (fun a b => a.1 < b.1))
    (h : ∀ key, find? key es = find? key fs) : es = fs := by
  induction es generalizing fs with
  | nil =>
    cases fs with
    | nil => rfl
    | cons f fs => simpa [find?] using h f.1
  | cons e es ih =>
    cases fs with
    | nil => simpa [find?] using h e.1
    | cons f fs =>
      obtain ⟨hehead, hetail⟩ := List.pairwise_cons.mp he
      obtain ⟨hfhead, hftail⟩ := List.pairwise_cons.mp hf
      have hkey : e.1 = f.1 := by
        refine Classical.byContradiction fun hne => ?_
        have h1 := h e.1
        have h2 := h f.1
        simp only [find?, hne, Ne.symm hne, if_true, if_false] at h1 h2
        have h3 := hfhead _ (find?_eq_some_mem h1.symm)
        have h4 := hehead _ (find?_eq_some_mem h2)
        exact String.lt_irrefl _ (String.lt_trans h3 h4)
      have hval : e.2 = f.2 := by simpa [find?, hkey] using h e.1
      have htail : es = fs := by
        refine ih hetail hftail fun key => ?_
        by_cases hk : key = e.1
        · subst hk
          rw [find?_eq_none_of_lt hehead, find?_eq_none_of_lt (hkey ▸ hfhead)]
        · have hk' : key ≠ f.1 := hkey ▸ hk
          simpa [find?, hk, hk'] using h key
      cases e; cases f
      simp_all

def empty : SortedMap α := ⟨[], .nil⟩

instance : EmptyCollection (SortedMap α) := ⟨empty⟩
instance : Inhabited (SortedMap α) := ⟨empty⟩

def get? (m : SortedMap α) (key : String) : Option α := find? key m.entries

def insert (m : SortedMap α) (key : String) (value : α) : SortedMap α :=
  ⟨put key value m.entries, put_ascending key value m.ascending⟩

def filter (keep : String × α → Bool) (m : SortedMap α) : SortedMap α :=
  ⟨m.entries.filter keep, m.ascending.filter keep⟩

def erase (m : SortedMap α) (key : String) : SortedMap α := m.filter fun e => e.1 ≠ key

/-- The map of a list of entries, a later one over an earlier one of the same key. -/
def ofList (es : List (String × α)) : SortedMap α :=
  es.foldl (fun m e => m.insert e.1 e.2) empty

def toList (m : SortedMap α) : List (String × α) := m.entries

def keys (m : SortedMap α) : List String := m.entries.map (·.1)

def size (m : SortedMap α) : Nat := m.entries.length

def isEmpty (m : SortedMap α) : Bool := m.entries.isEmpty

/-- Entries of the second map over those of the first. -/
def union (m : SortedMap α) (upper : SortedMap α) : SortedMap α :=
  upper.entries.foldl (fun m e => m.insert e.1 e.2) m

@[simp] theorem get?_empty (key : String) : (empty : SortedMap α).get? key = none := rfl

@[simp] theorem get?_insert (m : SortedMap α) (key key' : String) (value : α) :
    (m.insert key value).get? key' = if key' = key then some value else m.get? key' :=
  find?_put key key' value m.entries

@[simp] theorem get?_filter (m : SortedMap α) (keep : String × α → Bool) (key : String) :
    (m.filter keep).get? key = (m.get? key).filter fun v => keep (key, v) :=
  find?_filter keep key m.ascending

@[simp] theorem get?_erase (m : SortedMap α) (key key' : String) :
    (m.erase key).get? key' = if key' = key then none else m.get? key' := by
  by_cases h : key' = key
  · simp [erase, h]
  · cases hv : m.get? key' <;> simp [erase, h, hv]

theorem ext_get? {m n : SortedMap α} (h : ∀ key, m.get? key = n.get? key) : m = n := by
  cases m with
  | mk es he =>
    cases n with
    | mk fs hf =>
      cases eq_of_find?_eq he hf h
      rfl

theorem get?_foldl_insert (es : List (String × α)) (hes : es.Pairwise fun a b => a.1 ≠ b.1)
    (m : SortedMap α) (key : String) :
    (es.foldl (fun m e => m.insert e.1 e.2) m).get? key = (find? key es).or (m.get? key) := by
  induction es generalizing m with
  | nil => rfl
  | cons e es ih =>
    obtain ⟨hhead, htail⟩ := List.pairwise_cons.mp hes
    rw [List.foldl_cons, ih htail, get?_insert, find?]
    by_cases hk : key = e.1
    · have hnone : find? e.1 es = none := find?_eq_none_of_ne fun e' he' => (hhead e' he').symm
      rw [if_pos hk, if_pos hk, hk, hnone]
      rfl
    · rw [if_neg hk, if_neg hk]

/-- A map of entries with distinct keys answers as the list does. -/
theorem get?_ofList {es : List (String × α)} (hes : es.Pairwise fun a b => a.1 ≠ b.1)
    (key : String) : (ofList es).get? key = find? key es := by
  rw [ofList, get?_foldl_insert es hes, get?_empty, Option.or_none]

theorem get?_union (m upper : SortedMap α) (key : String) :
    (m.union upper).get? key = (upper.get? key).or (m.get? key) :=
  get?_foldl_insert upper.entries (distinct_of_ascending upper.ascending) m key

theorem get?_of_mem {m : SortedMap α} {e : String × α} (h : e ∈ m.entries) :
    m.get? e.1 = some e.2 := by
  obtain ⟨entries, ascending⟩ := m
  unfold get?
  induction entries with
  | nil => cases h
  | cons first rest ih =>
    obtain ⟨hfirst, hrest⟩ := List.pairwise_cons.mp ascending
    rcases List.mem_cons.mp h with rfl | hmem
    · simp [find?]
    · have hne : e.1 ≠ first.1 := fun heq => String.lt_irrefl e.1 (heq ▸ hfirst e hmem)
      rw [find?, if_neg hne]
      exact ih hrest hmem

theorem mem_keys_of_get? {m : SortedMap α} {key : String} {value : α}
    (h : m.get? key = some value) : key ∈ m.keys :=
  List.mem_map_of_mem (f := Prod.fst) (find?_eq_some_mem h)

theorem insert_comm {key key' : String} (h : key ≠ key') (m : SortedMap α) (value value' : α) :
    (m.insert key value).insert key' value' = (m.insert key' value').insert key value := by
  refine ext_get? fun k => ?_
  simp only [get?_insert]
  by_cases hk : k = key
  · have hk' : k ≠ key' := fun heq => h (hk.symm.trans heq)
    simp only [if_pos hk, if_neg hk']
  · simp only [if_neg hk]

theorem ofList_entries (m : SortedMap α) : ofList m.entries = m :=
  ext_get? (get?_ofList (distinct_of_ascending m.ascending))

/-- The order in which a map is listed does not matter. -/
theorem ofList_of_perm {m : SortedMap α} {es : List (String × α)} (h : es.Perm m.entries) :
    ofList es = m := by
  have hcomm : ∀ a ∈ es, ∀ b ∈ es, ∀ n : SortedMap α,
      (n.insert a.1 a.2).insert b.1 b.2 = (n.insert b.1 b.2).insert a.1 a.2 := by
    intro a ha b hb n
    by_cases hkey : a.1 = b.1
    · have hvalue : some a.2 = some b.2 := by
        rw [← get?_of_mem (h.mem_iff.mp ha), ← get?_of_mem (h.mem_iff.mp hb), hkey]
      rw [hkey, Option.some.inj hvalue]
    · exact insert_comm hkey n a.2 b.2
  calc ofList es = ofList m.entries := h.foldl_eq' hcomm empty
    _ = m := ofList_entries m

theorem get?_ofList_map (f : α → β) (es : List (String × α)) (key : String) :
    (ofList (es.map fun e => (e.1, f e.2))).get? key = ((ofList es).get? key).map f := by
  have hfold : ∀ (n : SortedMap β) (m : SortedMap α), n.get? key = (m.get? key).map f →
      ((es.map fun e => (e.1, f e.2)).foldl (fun n e => n.insert e.1 e.2) n).get? key =
        ((es.foldl (fun m e => m.insert e.1 e.2) m).get? key).map f := by
    induction es with
    | nil => exact fun n m h => h
    | cons e es ih =>
      intro n m h
      refine ih _ _ ?_
      rw [get?_insert, get?_insert, h]
      split <;> rfl
  exact hfold empty empty rfl

instance [DecidableEq α] : DecidableEq (SortedMap α) := fun m n =>
  if h : m.entries = n.entries then .isTrue (by cases m; cases n; cases h; rfl)
  else .isFalse fun heq => h (heq ▸ rfl)

end SortedMap

end BearerSession
