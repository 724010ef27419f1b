import BearerSession.Proofs.RecordLookup

namespace BearerSession.Json

open Node (ofValue itemsOfValues membersOfFields)
open SortedMap (find?)

/-- A way to put values down that changes nothing but the order of fields. -/
structure Value.Layout (w : Value → Value) : Prop where
  ordered : ∀ v, v.IsOrdered → w v = v
  array : ∀ vs, w (.array vs) = .array (vs.map w)
  object : ∀ entries, entries.Pairwise (fun a b => a.1 ≠ b.1) →
    ∃ es, w (.object entries) = .object es ∧ es.Pairwise (fun a b => a.1 ≠ b.1) ∧
      ∀ name, find? name es = (find? name entries).map w

theorem Value.layout_id : Value.Layout id where
  ordered _ _ := rfl
  array vs := by rw [List.map_id]; rfl
  object entries distinct := ⟨entries, rfl, distinct, fun name => Option.map_id_apply.symm⟩

theorem Value.layout_sorted : Value.Layout Value.sorted where
  ordered := Value.sorted_of_isOrdered
  array vs := by rw [Value.sorted, Value.sortedItems_eq_map]
  object entries distinct := by
    refine ⟨_, rfl, SortedMap.distinct_of_ascending (SortedMap.ascending _), fun name => ?_⟩
    have hmap := SortedMap.get?_ofList_map Value.sorted entries name
    rw [← Value.sortedFields_eq_map, SortedMap.get?_ofList distinct] at hmap
    exact hmap

/-- Whether a value is read as something, wherever so many levels may be entered. -/
def Reads {α : Type} (read : Reader α) (v : Value) (a : α) : Prop :=
  ∀ origin : Origin, origin.Allows v.depth → read origin (ofValue v) = .ok a

section Writing

variable {α β : Type} {read : Reader α} {w : Value → Value}

theorem Value.Layout.reads (hw : Value.Layout w) {v : Value} {a : α} (hv : v.IsOrdered)
    (h : Reads read v a) : Reads read (w v) a := by
  rw [hw.ordered v hv]
  exact h

theorem Reads.string (s : String) : Reads readString (.string s) s := fun _ _ => rfl

theorem readBelow_whole {bound : Nat} {n : Whole} (hn : 0 ≤ n.val ∧ n.val < bound)
    (expected : String) : Reads (readBelow bound expected) (.whole n) n.val.toNat := by
  intro origin _
  rw [Value.whole, ofValue, Node.sound, readBelow]
  simp [sound, hn.1, hn.2, bind, Except.bind, pure, Except.pure]

theorem Reads.uint32 (n : UInt32) : Reads readUInt32 (.whole (.ofUInt32 n)) n := by
  intro origin hallows
  have hlt : n.toNat < 4294967296 := n.toNat_lt
  have hn : 0 ≤ (Whole.ofUInt32 n).val ∧ (Whole.ofUInt32 n).val < (4294967296 : Nat) := by
    constructor
    · exact Int.natCast_nonneg _
    · exact Int.ofNat_lt.mpr hlt
  unfold readUInt32
  rw [readBelow_whole hn "u32" origin hallows]
  simp [Except.map, Whole.ofUInt32]

theorem Reads.list {xs : List β} {f : β → Value} {g : β → α}
    (h : ∀ x ∈ xs, Reads read (f x) (g x)) :
    Reads (readList read) (.array (xs.map f)) (xs.map g) := by
  intro origin hallows
  obtain ⟨inner, henter, hinner⟩ := hallows.enter
  have hitems := allows_depthOfItems_iff.mp hinner
  have hread : readItems read inner (itemsOfValues (xs.map f)) = .ok (xs.map g) := by
    clear hallows hinner
    induction xs with
    | nil => rfl
    | cons x xs ih =>
      rw [List.map_cons, List.forall_mem_cons] at hitems
      have hrest := ih (fun x hx => h x (List.mem_cons_of_mem _ hx)) hitems.2
      rw [List.map_cons, itemsOfValues, readItems, h x List.mem_cons_self inner hitems.1, hrest]
      rfl
  rw [ofValue, readList, henter]
  exact hread

theorem Reads.map {encode : α → Value} {m : SortedMap α}
    (h : ∀ e ∈ m.entries, Reads read (encode e.2) e.2) :
    Reads (readMap read) (.object (m.entries.map fun e => (e.1, encode e.2))) m := by
  intro origin hallows
  obtain ⟨inner, henter, hinner⟩ := hallows.enter
  have hentries := allows_depthOfFields_iff.mp hinner
  have hread : ∀ (es : List (String × α)) (start : SortedMap α),
      (∀ e ∈ es, Reads read (encode e.2) e.2 ∧ inner.Allows (encode e.2).depth) →
      readEntries read inner start (membersOfFields (es.map fun e => (e.1, encode e.2))) =
        .ok (es.foldl (fun m e => m.insert e.1 e.2) start) := by
    intro es
    induction es with
    | nil => exact fun _ _ => rfl
    | cons e es ih =>
      intro start hes
      obtain ⟨⟨he, hdepth⟩, hes⟩ := List.forall_mem_cons.mp hes
      rw [List.map_cons, membersOfFields, readEntries, he inner hdepth]
      exact ih (start.insert e.1 e.2) hes
  have hall := hread m.entries .empty fun e he =>
    ⟨h e he, hentries (e.1, encode e.2) (List.mem_map_of_mem he)⟩
  rw [ofValue, readMap, henter]
  exact hall.trans (congrArg Except.ok (SortedMap.ofList_entries m))

theorem Reads.optional {v : Value} {a : α} (hv : v ≠ .null) (h : Reads read v a) :
    Reads (readOptional read) v (some a) := by
  intro origin hallows
  have hopen : readOptional read origin (ofValue v) =
      (read origin (ofValue v)).bind fun a => .ok (some a) := by
    cases v with
    | null => exact absurd rfl hv
    | _ => rfl
  rw [hopen, h origin hallows]
  rfl

/-- What is left of a payload, of which null counts as absent. -/
def Value.present : Value → Option Value
  | .null => none
  | v => some v

theorem Value.present_of_ne_null {v : Value} (hv : v ≠ .null) : v.present = some v := by
  cases v with
  | null => exact absurd rfl hv
  | _ => rfl

theorem Reads.value {v : Value} (hv : v.IsOrdered) : Reads readValue v v := by
  intro origin hallows
  rw [readValue_ofValue v hallows, Value.sorted_of_isOrdered v hv]

theorem Reads.payload {v : Value} (hv : v.IsOrdered) :
    Reads (readOptional readValue) v v.present := by
  by_cases hnull : v = .null
  · subst hnull
    exact fun _ _ => rfl
  · rw [Value.present_of_ne_null hnull]
    exact (Reads.value hv).optional hnull

end Writing

section Records

variable {δ α : Type} {fields : List (Field δ)} {draft draft' : δ} {w : Value → Value}
  {entries : List (String × Value)}

/-- Whether the fields of a record, as they are written in an object, bring one draft to another. -/
inductive Field.Fill (w : Value → Value) (entries : List (String × Value)) :
    List (Field δ) → δ → δ → Prop
  | done {draft : δ} : Fill w entries [] draft draft
  | found {β : Type} {name : String} {optional : Bool} {get : δ → Option β} {set : β → δ → δ}
      {read : Reader β} {v : Value} {b : β} {fields : List (Field δ)} {draft draft' : δ} :
      find? name entries = some v → Reads read (w v) b → Fill w entries fields (set b draft) draft' →
      Fill w entries (.of name optional get set read :: fields) draft draft'
  | absent {β : Type} {name : String} {optional : Bool} {get : δ → Option β} {set : β → δ → δ}
      {read : Reader β} {fields : List (Field δ)} {draft draft' : δ} :
      find? name entries = none → Fill w entries fields draft draft' →
      Fill w entries (.of name optional get set read :: fields) draft draft'

theorem Field.Fill.lookUps {inner : Origin} {es : List (String × Value)}
    (h : Field.Fill w entries fields draft draft')
    (hes : ∀ name, find? name es = (find? name entries).map w)
    (hallows : ∀ e ∈ es, inner.Allows e.2.depth) :
    Field.lookUps inner es fields draft = some draft' := by
  induction h with
  | done => rfl
  | @found β name optional get set read v b fields draft draft' hfind hread _ ih =>
    have hlook : find? name es = some (w v) := by rw [hes, hfind, Option.map_some]
    have hdepth : inner.Allows (w v).depth := hallows _ (SortedMap.find?_eq_some_mem hlook)
    rw [Field.lookUps, Field.of_lookUp, hlook, Option.elim_some, hread inner hdepth]
    exact ih
  | @absent β name optional get set read fields draft draft' hfind _ ih =>
    have hlook : find? name es = none := by rw [hes, hfind, Option.map_none]
    rw [Field.lookUps, Field.of_lookUp, hlook]
    exact ih

/-- A record is read from its object. -/
theorem Value.Layout.record (hw : Value.Layout w) {shape : String}
    {finish : δ → Except ReadError α} {a : α} (apart : fields.Pairwise Field.Apart)
    (unset : ∀ f ∈ fields, f.isSet draft = false)
    (distinct : entries.Pairwise fun a b => a.1 ≠ b.1)
    (fill : Field.Fill w entries fields draft draft') (hfinish : finish draft' = .ok a) :
    Reads (readRecord shape fields draft finish) (w (.object entries)) a := by
  obtain ⟨es, hobject, hdistinct, hes⟩ := hw.object entries distinct
  intro origin hallows
  rw [hobject] at hallows ⊢
  obtain ⟨inner, henter, hinner⟩ := hallows.enter
  have hfields := fill.lookUps hes (allows_depthOfFields_iff.mp hinner)
  rw [← toOption_eq_some_iff, readRecord_eq_lookUps henter apart hdistinct unset, hfields,
    Option.bind_some, hfinish]
  rfl

end Records

section Reading

variable {α : Type} {read : Reader α} {origin : Origin} {node : Node}

theorem of_readItems {inner : Origin} : ∀ (items : Items) {as : List α},
    readItems read inner items = .ok as → ∀ a ∈ as, ∃ node, read inner node = .ok a
  | .close, as, h => by
    cases h
    simp
  | .stop _ f, as, h => by cases h
  | .item node rest, as, h => by
    obtain ⟨a, ha, h⟩ := bind_eq_ok_iff.mp h
    obtain ⟨as', has, h⟩ := bind_eq_ok_iff.mp h
    cases h
    exact List.forall_mem_cons.mpr ⟨⟨node, ha⟩, of_readItems rest has⟩

theorem of_readList {as : List α} (h : readList read origin node = .ok as) :
    ∃ inner, origin.enter = .ok inner ∧ ∀ a ∈ as, ∃ node, read inner node = .ok a := by
  cases node with
  | leaf kept skipped =>
    obtain ⟨_, -, h⟩ := bind_eq_ok_iff.mp h
    cases h
  | array items =>
    obtain ⟨inner, henter, h⟩ := bind_eq_ok_iff.mp h
    exact ⟨inner, henter, of_readItems items h⟩
  | object members => cases h

theorem of_readOptional {a : α} (h : readOptional read origin node = .ok (some a)) :
    (∀ skipped, node ≠ .leaf (.ok .null) skipped) ∧ read origin node = .ok a := by
  unfold readOptional at h
  split at h
  · cases h
  next hnode =>
    obtain ⟨a', ha, h⟩ := bind_eq_ok_iff.mp h
    cases h
    exact ⟨hnode, ha⟩

/-- A payload that was read is not null, and written as it stands it may be entered where it was
read. -/
theorem of_readPayload {v : Value} (h : readOptional readValue origin node = .ok (some v)) :
    v.present = some v ∧ v.IsOrdered ∧ origin.Allows v.depth := by
  obtain ⟨hnode, hread⟩ := of_readOptional h
  refine ⟨Value.present_of_ne_null ?_, isOrdered_of_readValue node hread,
    allows_of_readValue node hread⟩
  rintro rfl
  cases node with
  | leaf kept skipped =>
    obtain ⟨l, hl, hvalue⟩ := bind_eq_ok_iff.mp hread
    cases kept with
    | error f => cases hl
    | ok l' =>
      cases hl
      cases l <;> first | exact hnode skipped rfl | cases hvalue
  | array items =>
    obtain ⟨_, -, hread⟩ := bind_eq_ok_iff.mp hread
    obtain ⟨_, -, hread⟩ := bind_eq_ok_iff.mp hread
    cases hread
  | object members =>
    obtain ⟨_, -, hread⟩ := bind_eq_ok_iff.mp hread
    obtain ⟨_, -, hread⟩ := bind_eq_ok_iff.mp hread
    cases hread

end Reading

end BearerSession.Json
