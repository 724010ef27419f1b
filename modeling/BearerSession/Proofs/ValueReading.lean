import BearerSession.Proofs.RecordReading

namespace BearerSession.Json

open Node (ofValue itemsOfValues membersOfFields)

namespace Value

mutual

/-- Whether the fields of all objects in a value are in ascending order of their names. -/
def IsOrdered : Value → Prop
  | .array vs => AreOrdered vs
  | .object entries => entries.Pairwise (fun a b => a.1 < b.1) ∧ AreOrderedFields entries
  | _ => True

def AreOrdered : List Value → Prop
  | [] => True
  | v :: vs => v.IsOrdered ∧ AreOrdered vs

def AreOrderedFields : List (String × Value) → Prop
  | [] => True
  | (_, v) :: entries => v.IsOrdered ∧ AreOrderedFields entries

end

theorem areOrdered_iff {vs : List Value} : AreOrdered vs ↔ ∀ v ∈ vs, v.IsOrdered := by
  induction vs with
  | nil => simp [AreOrdered]
  | cons v vs ih => simp [AreOrdered, ih]

theorem areOrderedFields_iff {entries : List (String × Value)} :
    AreOrderedFields entries ↔ ∀ e ∈ entries, e.2.IsOrdered := by
  induction entries with
  | nil => simp [AreOrderedFields]
  | cons e entries ih => simp [AreOrderedFields, ih]

mutual

/-- A value with the fields of all objects in order. Of repeated names the last counts. -/
def sorted : Value → Value
  | .array vs => .array (sortedItems vs)
  | .object entries => .object (SortedMap.ofList (sortedFields entries)).toList
  | v => v

def sortedItems : List Value → List Value
  | [] => []
  | v :: vs => v.sorted :: sortedItems vs

def sortedFields : List (String × Value) → List (String × Value)
  | [] => []
  | (name, v) :: entries => (name, v.sorted) :: sortedFields entries

end

theorem sortedItems_eq_map (vs : List Value) : sortedItems vs = vs.map sorted := by
  induction vs with
  | nil => rfl
  | cons v vs ih => rw [sortedItems, ih, List.map_cons]

theorem sortedFields_eq_map (entries : List (String × Value)) :
    sortedFields entries = entries.map fun e => (e.1, e.2.sorted) := by
  induction entries with
  | nil => rfl
  | cons e entries ih => rw [sortedFields, ih, List.map_cons]

mutual

theorem sorted_of_isOrdered : ∀ v : Value, v.IsOrdered → v.sorted = v
  | .null, _ | .bool _, _ | .number _, _ | .string _, _ => rfl
  | .array vs, h => congrArg Value.array (sortedItems_of_areOrdered vs h)
  | .object entries, h => by
    rw [sorted, sortedFields_of_areOrdered entries h.2]
    exact congrArg (fun m : SortedMap Value => Value.object m.entries)
      (SortedMap.ofList_entries ⟨entries, h.1⟩)

theorem sortedItems_of_areOrdered : ∀ vs : List Value, AreOrdered vs → sortedItems vs = vs
  | [], _ => rfl
  | v :: vs, h => by
    rw [sortedItems, sorted_of_isOrdered v h.1, sortedItems_of_areOrdered vs h.2]

theorem sortedFields_of_areOrdered :
    ∀ entries : List (String × Value), AreOrderedFields entries → sortedFields entries = entries
  | [], _ => rfl
  | (name, v) :: entries, h => by
    rw [sortedFields, sorted_of_isOrdered v h.1, sortedFields_of_areOrdered entries h.2]

end

mutual

/-- How deep arrays and objects are nested in a value. -/
def depth : Value → Nat
  | .array vs => depthOfItems vs + 1
  | .object entries => depthOfFields entries + 1
  | _ => 0

def depthOfItems : List Value → Nat
  | [] => 0
  | v :: vs => max v.depth (depthOfItems vs)

def depthOfFields : List (String × Value) → Nat
  | [] => 0
  | (_, v) :: entries => max v.depth (depthOfFields entries)

end

end Value

section Depth

variable {origin inner : Origin}

/-- Whether so many levels may be entered. -/
def Origin.Allows : Origin → Nat → Prop
  | .text room, levels => levels ≤ room
  | _, _ => True

theorem Origin.allows_zero (origin : Origin) : origin.Allows 0 := by
  cases origin with
  | text room => exact Nat.zero_le room
  | _ => trivial

theorem Origin.Allows.mono {m n : Nat} (h : origin.Allows n) (le : m ≤ n) : origin.Allows m := by
  cases origin with
  | text room => exact Nat.le_trans le h
  | _ => trivial

theorem Origin.Allows.enter {n : Nat} (h : origin.Allows (n + 1)) :
    ∃ inner, origin.enter = .ok inner ∧ inner.Allows n := by
  cases origin with
  | text room =>
    cases room with
    | zero => exact absurd h (Nat.not_succ_le_zero n)
    | succ room => exact ⟨_, rfl, Nat.le_of_succ_le_succ h⟩
  | _ => exact ⟨_, rfl, trivial⟩

theorem Origin.allows_of_enter {n : Nat} (h : origin.enter = .ok inner) :
    origin.Allows (n + 1) ↔ inner.Allows n := by
  cases origin with
  | text room =>
    cases room with
    | zero => cases h
    | succ room =>
      cases h
      exact Nat.succ_le_succ_iff
  | _ =>
    cases h
    exact Iff.rfl

theorem Origin.allows_max {m n : Nat} :
    origin.Allows (max m n) ↔ origin.Allows m ∧ origin.Allows n := by
  cases origin with
  | text room => exact Nat.max_le
  | _ => exact (and_self_iff).symm

theorem Origin.allows_of_enter_self (memory : origin.enter = .ok origin) (n : Nat) :
    origin.Allows n := by
  cases origin with
  | text room => cases room <;> cases memory
  | _ => trivial

theorem allows_depthOfItems_iff {vs : List Value} :
    origin.Allows (Value.depthOfItems vs) ↔ ∀ v ∈ vs, origin.Allows v.depth := by
  induction vs with
  | nil => simp [Value.depthOfItems, origin.allows_zero]
  | cons v vs ih => simp [Value.depthOfItems, Origin.allows_max, ih]

theorem allows_depthOfFields_iff {entries : List (String × Value)} :
    origin.Allows (Value.depthOfFields entries) ↔ ∀ e ∈ entries, origin.Allows e.2.depth := by
  induction entries with
  | nil => simp [Value.depthOfFields, origin.allows_zero]
  | cons e entries ih => simp [Value.depthOfFields, Origin.allows_max, ih]

theorem Value.depth_array_le {n : Nat} {vs : List Value} (h : ∀ v ∈ vs, v.depth ≤ n) :
    (Value.array vs).depth ≤ n + 1 :=
  Nat.succ_le_succ ((allows_depthOfItems_iff : (Origin.text n).Allows _ ↔ _).mpr h)

theorem Value.depth_object_le {n : Nat} {entries : List (String × Value)}
    (h : ∀ e ∈ entries, e.2.depth ≤ n) : (Value.object entries).depth ≤ n + 1 :=
  Nat.succ_le_succ ((allows_depthOfFields_iff : (Origin.text n).Allows _ ↔ _).mpr h)

end Depth

mutual

theorem readValue_ofValue : ∀ (v : Value) {origin : Origin}, origin.Allows v.depth →
    readValue origin (ofValue v) = .ok v.sorted
  | .null, _, _ | .bool _, _, _ | .number _, _, _ | .string _, _, _ => rfl
  | .array vs, origin, h => by
    obtain ⟨inner, henter, hinner⟩ := h.enter
    rw [ofValue, readValue, henter, Value.sorted]
    exact congrArg (fun r => r.map Value.array) (readValues_ofValues vs hinner)
  | .object entries, origin, h => by
    obtain ⟨inner, henter, hinner⟩ := h.enter
    rw [ofValue, readValue, henter, Value.sorted]
    exact congrArg (fun r => r.map fun m => Value.object m.toList)
      (readFields_ofFields entries .empty hinner)

theorem readValues_ofValues : ∀ (vs : List Value) {origin : Origin},
    origin.Allows (Value.depthOfItems vs) →
      readValues origin (itemsOfValues vs) = .ok (Value.sortedItems vs)
  | [], _, _ => rfl
  | v :: vs, origin, h => by
    obtain ⟨hv, hvs⟩ := Origin.allows_max.mp h
    rw [itemsOfValues, readValues, readValue_ofValue v hv, Value.sortedItems]
    exact congrArg (fun r => r.map (v.sorted :: ·)) (readValues_ofValues vs hvs)

theorem readFields_ofFields : ∀ (entries : List (String × Value)) {origin : Origin}
    (m : SortedMap Value), origin.Allows (Value.depthOfFields entries) →
      readFields origin m (membersOfFields entries) =
        .ok ((Value.sortedFields entries).foldl (fun m e => m.insert e.1 e.2) m)
  | [], _, _, _ => rfl
  | (name, v) :: entries, origin, m, h => by
    obtain ⟨hv, hentries⟩ := Origin.allows_max.mp h
    rw [membersOfFields, readFields, readValue_ofValue v hv, Value.sortedFields]
    exact readFields_ofFields entries (m.insert name v.sorted) hentries

end

/-- Whether something holds of leaves, and of an array and an object if it holds of their parts one
level below. -/
structure BuiltUp (P : Origin → Value → Prop) : Prop where
  leaf : ∀ origin l, P origin (Leaf.value l)
  array : ∀ origin inner vs, origin.enter = .ok inner → (∀ v ∈ vs, P inner v) →
    P origin (.array vs)
  object : ∀ origin inner (m : SortedMap Value), origin.enter = .ok inner →
    (∀ e ∈ m.entries, P inner e.2) → P origin (.object m.entries)

section BuiltUp

variable {P : Origin → Value → Prop}

mutual

theorem BuiltUp.readValue (hp : BuiltUp P) : ∀ (node : Node) {origin : Origin} {v : Value},
    readValue origin node = .ok v → P origin v
  | .leaf kept skipped, origin, v, h => by
    obtain ⟨l, -, h⟩ := bind_eq_ok_iff.mp h
    cases h
    exact hp.leaf origin l
  | .array items, origin, v, h => by
    obtain ⟨inner, henter, h⟩ := bind_eq_ok_iff.mp h
    obtain ⟨vs, hvs, h⟩ := bind_eq_ok_iff.mp h
    cases h
    exact hp.array origin inner vs henter (hp.readValues items hvs)
  | .object members, origin, v, h => by
    obtain ⟨inner, henter, h⟩ := bind_eq_ok_iff.mp h
    obtain ⟨m, hm, h⟩ := bind_eq_ok_iff.mp h
    cases h
    exact hp.object origin inner m henter (hp.readFields members (by simp [SortedMap.empty]) hm)

theorem BuiltUp.readValues (hp : BuiltUp P) : ∀ (items : Items) {origin : Origin}
    {vs : List Value}, readValues origin items = .ok vs → ∀ v ∈ vs, P origin v
  | .close, origin, vs, h => by
    cases h
    simp
  | .stop _ f, origin, vs, h => by cases h
  | .item node rest, origin, vs, h => by
    obtain ⟨v, hv, h⟩ := bind_eq_ok_iff.mp h
    obtain ⟨vs', hvs, h⟩ := bind_eq_ok_iff.mp h
    cases h
    exact List.forall_mem_cons.mpr ⟨hp.readValue node hv, hp.readValues rest hvs⟩

theorem BuiltUp.readFields (hp : BuiltUp P) : ∀ (members : Members) {origin : Origin}
    {m m' : SortedMap Value}, (∀ e ∈ m.entries, P origin e.2) →
      readFields origin m members = .ok m' → ∀ e ∈ m'.entries, P origin e.2
  | .close, origin, m, m', hm, h => by
    cases h
    exact hm
  | .stop f, origin, m, m', hm, h => by cases h
  | .member name node rest, origin, m, m', hm, h => by
    obtain ⟨name, -, h⟩ := bind_eq_ok_iff.mp h
    obtain ⟨v, hv, h⟩ := bind_eq_ok_iff.mp h
    have hv : P origin v := hp.readValue node hv
    refine hp.readFields rest (fun e he => ?_) h
    rcases SortedMap.mem_put he with rfl | he
    · exact hv
    · exact hm e he

end

end BuiltUp

theorem builtUp_isOrdered : BuiltUp fun _ v => v.IsOrdered where
  leaf _ l := by cases l <;> trivial
  array _ _ _ _ hvs := Value.areOrdered_iff.mpr hvs
  object _ _ m _ hm := ⟨m.ascending, Value.areOrderedFields_iff.mpr hm⟩

theorem builtUp_allows : BuiltUp fun origin v => origin.Allows v.depth where
  leaf origin l := by cases l <;> exact origin.allows_zero
  array _ _ _ henter hvs := (Origin.allows_of_enter henter).mpr (allows_depthOfItems_iff.mpr hvs)
  object _ _ _ henter hm := (Origin.allows_of_enter henter).mpr (allows_depthOfFields_iff.mpr hm)

/-- What is read from a document has the fields of its objects in order. -/
theorem isOrdered_of_readValue (node : Node) {origin : Origin} {v : Value}
    (h : readValue origin node = .ok v) : v.IsOrdered :=
  builtUp_isOrdered.readValue node h

theorem allows_of_readValue (node : Node) {origin : Origin} {v : Value}
    (h : readValue origin node = .ok v) : origin.Allows v.depth :=
  builtUp_allows.readValue node h

end BearerSession.Json
