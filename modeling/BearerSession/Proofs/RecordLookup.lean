import BearerSession.Proofs.ValueReading

namespace BearerSession.Json

open Node (ofValue itemsOfValues membersOfFields)

theorem toOption_bind {ε α β : Type} (x : Except ε α) (f : α → Except ε β) :
    (x >>= f).toOption = x.toOption.bind fun a => (f a).toOption := by
  cases x <;> rfl

theorem toOption_eq_some_iff {ε α : Type} {x : Except ε α} {a : α} :
    x.toOption = some a ↔ x = .ok a := by
  cases x <;> simp [Except.toOption]

section Sound

mutual

theorem skip_ofValue : ∀ v : Value, skip (ofValue v) = .ok ()
  | .null | .bool _ | .number _ | .string _ => rfl
  | .array vs => skipItems_ofValues vs
  | .object fields => skipMembers_ofFields fields

theorem skipItems_ofValues : ∀ vs : List Value, skipItems (itemsOfValues vs) = .ok ()
  | [] => rfl
  | v :: vs => by
    rw [itemsOfValues, skipItems, skip_ofValue v]
    exact skipItems_ofValues vs

theorem skipMembers_ofFields :
    ∀ entries : List (String × Value), skipMembers (membersOfFields entries) = .ok ()
  | [] => rfl
  | (_, v) :: entries => by
    rw [membersOfFields, skipMembers, skip_ofValue v]
    exact skipMembers_ofFields entries

end

theorem check_ofValue {origin : Origin} (memory : origin.enter = .ok origin) (v : Value) :
    check origin (ofValue v) = .ok () := by
  rw [check, readValue_ofValue v (Origin.allows_of_enter_self memory v.depth)]
  rfl

end Sound

section LookUp

variable {δ : Type} {f g : Field δ} {origin : Origin} {fields : List (Field δ)}
  {entries : List (String × Value)} {name : String} {v : Value}

namespace Field

/-- Reads a field from a value in memory, where the reason for a failure does not matter. -/
def read? (f : Field δ) (origin : Origin) (v : Value) (draft : δ) : Option δ :=
  (f.read origin (ofValue v) draft).toOption

/-- Looks a field up in an object, and reads it if it is there. -/
def lookUp (f : Field δ) (origin : Origin) (entries : List (String × Value)) (draft : δ) :
    Option δ :=
  match SortedMap.find? f.name entries with
  | some v => f.read? origin v draft
  | none => some draft

/-- Looks up the fields of a record in their order. -/
def lookUps (origin : Origin) (entries : List (String × Value)) : List (Field δ) → δ → Option δ
  | [], draft => some draft
  | f :: fields, draft => (f.lookUp origin entries draft).bind (lookUps origin entries fields)

/-- Two fields of a record, each read into its own place. -/
structure Apart (f g : Field δ) : Prop where
  name : f.name ≠ g.name
  swap : ∀ origin v w draft,
    (f.read? origin v draft).bind (g.read? origin w) =
      (g.read? origin w draft).bind (f.read? origin v)
  left : ∀ origin v draft draft', g.read? origin v draft = some draft' →
    f.isSet draft' = f.isSet draft
  right : ∀ origin v draft draft', f.read? origin v draft = some draft' →
    g.isSet draft' = g.isSet draft

theorem Apart.symm (h : f.Apart g) : g.Apart f :=
  ⟨h.name.symm, fun origin v w draft => (h.swap origin w v draft).symm, h.right, h.left⟩

theorem of_read? {α : Type} (name : String) (optional : Bool) (get : δ → Option α)
    (set : α → δ → δ) (read : Reader α) (origin : Origin) (v : Value) (draft : δ) :
    (Field.of name optional get set read).read? origin v draft =
      (read origin (ofValue v)).toOption.map fun a => set a draft := by
  show (read origin (ofValue v) >>= fun a => .ok (set a draft)).toOption = _
  cases read origin (ofValue v) <;> rfl

theorem of_lookUp {α : Type} (name : String) (optional : Bool) (get : δ → Option α)
    (set : α → δ → δ) (read : Reader α) (origin : Origin) (entries : List (String × Value))
    (draft : δ) :
    (Field.of name optional get set read).lookUp origin entries draft =
      (SortedMap.find? name entries).elim (some draft) fun v =>
        (read origin (ofValue v)).toOption.map fun a => set a draft := by
  have hname : (Field.of name optional get set read).name = name := rfl
  rw [lookUp, hname]
  cases SortedMap.find? name entries with
  | none => rfl
  | some v => exact of_read? name optional get set read origin v draft

/-- Fields with places of their own in a draft are apart. -/
theorem of_apart {α β : Type} {name name' : String} {optional optional' : Bool}
    {get : δ → Option α} {set : α → δ → δ} {read : Reader α} {get' : δ → Option β}
    {set' : β → δ → δ} {read' : Reader β} (hname : name ≠ name')
    (hswap : ∀ a b draft, set' b (set a draft) = set a (set' b draft))
    (hget : ∀ b draft, get (set' b draft) = get draft)
    (hget' : ∀ a draft, get' (set a draft) = get' draft) :
    (Field.of name optional get set read).Apart (Field.of name' optional' get' set' read') := by
  refine ⟨hname, fun origin v w draft => ?_, fun origin v draft draft' h => ?_,
    fun origin v draft draft' h => ?_⟩
  · cases hv : (read origin (ofValue v)).toOption <;>
      cases hw : (read' origin (ofValue w)).toOption <;> simp [of_read?, hv, hw, hswap]
  · rw [of_read?, Option.map_eq_some_iff] at h
    obtain ⟨b, -, rfl⟩ := h
    exact congrArg Option.isSome (hget b draft)
  · rw [of_read?, Option.map_eq_some_iff] at h
    obtain ⟨a, -, rfl⟩ := h
    exact congrArg Option.isSome (hget' a draft)

theorem lookUp_cons_self (f : Field δ) (origin : Origin) (v : Value)
    (entries : List (String × Value)) :
    f.lookUp origin ((f.name, v) :: entries) = f.read? origin v := by
  funext draft
  simp [lookUp, SortedMap.find?]

theorem lookUp_cons_other (h : f.name ≠ name) (origin : Origin) (v : Value)
    (entries : List (String × Value)) :
    f.lookUp origin ((name, v) :: entries) = f.lookUp origin entries := by
  funext draft
  simp [lookUp, SortedMap.find?, h]

/-- A field is read before or after those that are apart from it. -/
theorem read?_bind_lookUps (h : ∀ g ∈ fields, g.Apart f) (v : Value) (draft : δ) :
    (f.read? origin v draft).bind (lookUps origin entries fields) =
      (lookUps origin entries fields draft).bind (f.read? origin v) := by
  induction fields generalizing draft with
  | nil => exact Option.bind_fun_some _
  | cons g fields ih =>
    have hg : g.Apart f := h g List.mem_cons_self
    have hrest := ih fun g hg => h g (List.mem_cons_of_mem _ hg)
    have hstep : (f.read? origin v draft).bind (g.lookUp origin entries) =
        (g.lookUp origin entries draft).bind (f.read? origin v) := by
      unfold lookUp
      cases SortedMap.find? g.name entries with
      | none => exact Option.bind_fun_some _
      | some w => exact (hg.swap origin w v draft).symm
    calc (f.read? origin v draft).bind (lookUps origin entries (g :: fields))
        = ((f.read? origin v draft).bind (g.lookUp origin entries)).bind
            (lookUps origin entries fields) := (Option.bind_assoc _ _ _).symm
      _ = (g.lookUp origin entries draft).bind fun d =>
            (f.read? origin v d).bind (lookUps origin entries fields) := by
          rw [hstep, Option.bind_assoc]
      _ = (g.lookUp origin entries draft).bind fun d =>
            (lookUps origin entries fields d).bind (f.read? origin v) := by simp only [hrest]
      _ = (lookUps origin entries (g :: fields) draft).bind (f.read? origin v) :=
          (Option.bind_assoc _ _ _).symm

theorem lookUps_nil (fields : List (Field δ)) (draft : δ) :
    lookUps origin [] fields draft = some draft := by
  induction fields with
  | nil => rfl
  | cons f fields ih => exact ih

/-- The other fields of a record are apart from each. -/
theorem apart_of_append {before after : List (Field δ)}
    (h : (before ++ f :: after).Pairwise Field.Apart) :
    (∀ g ∈ before, g.Apart f) ∧ ∀ g ∈ after, g.Apart f := by
  obtain ⟨-, hafter, hcross⟩ := List.pairwise_append.mp h
  exact ⟨fun g hg => hcross g hg f List.mem_cons_self,
    fun g hg => ((List.pairwise_cons.mp hafter).1 g hg).symm⟩

theorem lookUps_append (before after : List (Field δ)) (draft : δ) :
    lookUps origin entries (before ++ after) draft =
      (lookUps origin entries before draft).bind (lookUps origin entries after) := by
  induction before generalizing draft with
  | nil => rfl
  | cons f before ih =>
    have hrest : lookUps origin entries (before ++ after) = fun d =>
        (lookUps origin entries before d).bind (lookUps origin entries after) := funext ih
    rw [List.cons_append, lookUps, lookUps, hrest, Option.bind_assoc]

theorem lookUps_cons_other (h : ∀ f ∈ fields, f.name ≠ name) (v : Value) (draft : δ) :
    lookUps origin ((name, v) :: entries) fields draft = lookUps origin entries fields draft := by
  induction fields generalizing draft with
  | nil => rfl
  | cons f fields ih =>
    have hrest : lookUps origin ((name, v) :: entries) fields = lookUps origin entries fields :=
      funext fun d => ih (fun f hf => h f (List.mem_cons_of_mem _ hf)) d
    rw [lookUps, lookUps, lookUp_cons_other (h f List.mem_cons_self), hrest]

/-- A field that is read first is found at its place in the record, and nowhere else. -/
theorem lookUps_cons_self {before after : List (Field δ)} (hbefore : ∀ g ∈ before, g.Apart f)
    (hafter : ∀ g ∈ after, g.Apart f) (hgone : SortedMap.find? f.name entries = none) (v : Value)
    (draft : δ) :
    lookUps origin ((f.name, v) :: entries) (before ++ f :: after) draft =
      (f.read? origin v draft).bind (lookUps origin entries (before ++ f :: after)) := by
  have hskip : lookUps origin entries (f :: after) = lookUps origin entries after := by
    funext d
    rw [lookUps, lookUp, hgone]
    rfl
  have hlast : lookUps origin ((f.name, v) :: entries) (f :: after) = fun d =>
      (f.read? origin v d).bind (lookUps origin entries after) := by
    funext d
    rw [lookUps, lookUp_cons_self]
    exact congrArg _ (funext fun d => lookUps_cons_other (fun g hg => (hafter g hg).name) v d)
  calc lookUps origin ((f.name, v) :: entries) (before ++ f :: after) draft
      = (lookUps origin entries before draft).bind fun d =>
          (f.read? origin v d).bind (lookUps origin entries after) := by
        rw [lookUps_append, lookUps_cons_other fun g hg => (hbefore g hg).name, hlast]
    _ = ((f.read? origin v draft).bind (lookUps origin entries before)).bind
          (lookUps origin entries after) := by
        rw [read?_bind_lookUps hbefore, Option.bind_assoc]
    _ = (f.read? origin v draft).bind (lookUps origin entries (before ++ f :: after)) := by
        rw [Option.bind_assoc, ← hskip]
        exact congrArg _ (funext fun d => (lookUps_append before (f :: after) d).symm)

end Field

open Json.Field (lookUps lookUp)

theorem readMembers_cons (fields : List (Field δ)) (origin : Origin) (draft : δ) (name : String)
    (v : Value) (entries : List (String × Value)) :
    readMembers fields origin draft (membersOfFields ((name, v) :: entries)) =
      match fields.find? (·.name = name) with
      | some field =>
        if field.isSet draft then .error (.mismatch (.duplicateField name))
        else (field.read origin (ofValue v) draft).bind fun draft =>
          readMembers fields origin draft (membersOfFields entries)
      | none => readMembers fields origin draft (membersOfFields entries) := by
  rw [membersOfFields, readMembers]
  simp only [sound, bind, Except.bind]
  cases fields.find? (·.name = name) with
  | some field => rfl
  | none => simp only [skip_ofValue]

/-- What is unset and not looked up yet is unset after a field apart from it was read. -/
theorem unset_after (apart : g.Apart f) {draft draft' : δ}
    (hread : f.read? origin v draft = some draft')
    (unset : g.isSet draft = true → SortedMap.find? g.name ((f.name, v) :: entries) = none)
    (hset : g.isSet draft' = true) : SortedMap.find? g.name entries = none := by
  rw [apart.left origin v draft draft' hread] at hset
  simpa [SortedMap.find?, apart.name] using unset hset

theorem unset_after_read {before after : List (Field δ)} (hbefore : ∀ g ∈ before, g.Apart f)
    (hafter : ∀ g ∈ after, g.Apart f) (hgone : SortedMap.find? f.name entries = none)
    {draft draft' : δ} (hread : f.read? origin v draft = some draft')
    (unset : ∀ g ∈ before ++ f :: after, g.isSet draft = true →
      SortedMap.find? g.name ((f.name, v) :: entries) = none) :
    ∀ g ∈ before ++ f :: after, g.isSet draft' = true → SortedMap.find? g.name entries = none := by
  intro g hg hset
  rcases List.mem_append.mp hg with hb | ha
  · exact unset_after (hbefore g hb) hread (unset g hg) hset
  · rcases List.mem_cons.mp ha with rfl | ha
    · exact hgone
    · exact unset_after (hafter g ha) hread (unset g hg) hset

/-- From a draft in which only fields are set that the object does not have. -/
theorem readMembers_eq_lookUps_of (apart : fields.Pairwise Field.Apart)
    (distinct : entries.Pairwise fun a b => a.1 ≠ b.1) {draft : δ}
    (unset : ∀ f ∈ fields, f.isSet draft = true → SortedMap.find? f.name entries = none) :
    (readMembers fields origin draft (membersOfFields entries)).toOption =
      lookUps origin entries fields draft := by
  -- Along the object: the field of an entry may be read before those that precede it in the record.
  induction entries generalizing draft with
  | nil => exact (Field.lookUps_nil fields draft).symm
  | cons entry entries ih =>
    obtain ⟨name, v⟩ := entry
    obtain ⟨hnew, hdistinct⟩ := List.pairwise_cons.mp distinct
    have hgone : SortedMap.find? name entries = none :=
      SortedMap.find?_eq_none_of_ne fun e he => (hnew e he).symm
    rw [readMembers_cons]
    cases hfound : fields.find? (·.name = name) with
    | none =>
      have hother : ∀ f ∈ fields, f.name ≠ name := by simpa using hfound
      dsimp only
      rw [ih hdistinct fun f hf hset => ?_, Field.lookUps_cons_other hother]
      simpa [SortedMap.find?, hother f hf] using unset f hf hset
    | some f =>
      obtain ⟨hname, before, after, rfl, -⟩ := List.find?_eq_some_iff_append.mp hfound
      have hname : f.name = name := by simpa using hname
      subst hname
      obtain ⟨hbefore, hafter⟩ := Field.apart_of_append apart
      have hset : f.isSet draft = false := by
        cases hset : f.isSet draft with
        | false => rfl
        | true => simpa [SortedMap.find?] using unset f (by simp) hset
      have hrest (d : δ) (hd : f.read? origin v draft = some d) :
          (readMembers (before ++ f :: after) origin d (membersOfFields entries)).toOption =
            lookUps origin entries (before ++ f :: after) d :=
        ih hdistinct (unset_after_read hbefore hafter hgone hd unset)
      dsimp only
      rw [hset, if_neg Bool.false_ne_true, Field.lookUps_cons_self hbefore hafter hgone]
      exact (toOption_bind _ _).trans (Option.bind_congr hrest)

/-- The fields of an object with distinct names are read as they are looked up, in whatever order
the object has them. -/
theorem readMembers_eq_lookUps (apart : fields.Pairwise Field.Apart)
    (distinct : entries.Pairwise fun a b => a.1 ≠ b.1) {draft : δ}
    (unset : ∀ f ∈ fields, f.isSet draft = false) :
    (readMembers fields origin draft (membersOfFields entries)).toOption =
      lookUps origin entries fields draft :=
  readMembers_eq_lookUps_of apart distinct fun f hf hset =>
    absurd hset (Bool.eq_false_iff.mp (unset f hf))

/-- A record is read from an object in memory by looking up its fields. -/
theorem readRecord_eq_lookUps {α : Type} {shape : String} {draft : δ}
    {finish : δ → Except ReadError α} {inner : Origin} (enter : origin.enter = .ok inner)
    (apart : fields.Pairwise Field.Apart)
    (distinct : entries.Pairwise fun a b => a.1 ≠ b.1)
    (unset : ∀ f ∈ fields, f.isSet draft = false) :
    (readRecord shape fields draft finish origin (ofValue (.object entries))).toOption =
      (lookUps inner entries fields draft).bind fun draft => (finish draft).toOption := by
  rw [ofValue, readRecord, enter, ← readMembers_eq_lookUps apart distinct unset]
  exact toOption_bind (readMembers fields inner draft (membersOfFields entries)) finish

/-- Reads the fields of a record from a list, in their order. Fields that may be absent may be
missing at its end. -/
def Field.readInOrder (origin : Origin) : List (Field δ) → List Value → δ → Option δ
  | [], [], draft => some draft
  | [], _ :: _, _ => none
  | f :: fields, v :: vs, draft => (f.read? origin v draft).bind (readInOrder origin fields vs)
  | f :: fields, [], draft => if f.optional then readInOrder origin fields [] draft else none

theorem readEnd_ofValues (origin : Origin) (count : Nat) (vs : List Value) :
    (readEnd origin count (itemsOfValues vs)).toOption = if vs = [] then some () else none := by
  cases vs with
  | nil => rfl
  | cons v vs => cases origin <;> rfl

theorem readPositions_eq_readInOrder {α : Type} {shape : String} (count total : Nat)
    (fields : List (Field δ)) (vs : List Value) (draft : δ) (finish : δ → Except ReadError α) :
    (readPositions shape origin count draft fields (itemsOfValues vs) >>= fun (draft, rest) => do
        let a ← finish draft
        readEnd origin total rest
        return a).toOption =
      (Field.readInOrder origin fields vs draft).bind fun draft => (finish draft).toOption := by
  induction fields generalizing count vs draft with
  | nil =>
    show (finish draft >>= fun a => readEnd origin total (itemsOfValues vs) >>= fun _ =>
      .ok a).toOption = _
    simp only [toOption_bind, readEnd_ofValues]
    cases vs with
    | nil =>
      rw [Field.readInOrder, Option.bind_some]
      cases finish draft <;> simp [Except.toOption]
    | cons v vs => cases finish draft <;> simp [Field.readInOrder]
  | cons f fields ih =>
    cases vs with
    | nil =>
      rw [itemsOfValues, readPositions, Field.readInOrder]
      split
      · exact ih (count + 1) [] draft
      · rfl
    | cons v vs =>
      rw [itemsOfValues, readPositions, Field.readInOrder, Option.bind_assoc, bind_assoc,
        toOption_bind]
      exact congrArg _ (funext fun d => ih (count + 1) vs d)

theorem readRecord_eq_readInOrder {α : Type} {shape : String} {draft : δ}
    {finish : δ → Except ReadError α} (memory : origin.enter = .ok origin) (vs : List Value) :
    (readRecord shape fields draft finish origin (ofValue (.array vs))).toOption =
      (Field.readInOrder origin fields vs draft).bind fun draft => (finish draft).toOption := by
  rw [ofValue, readRecord, memory]
  exact readPositions_eq_readInOrder 0 fields.length fields vs draft finish

end LookUp

end BearerSession.Json
