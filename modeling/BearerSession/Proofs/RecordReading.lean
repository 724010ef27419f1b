import BearerSession.Json.Reader

namespace BearerSession.Json

theorem bind_eq_ok_iff {ε α β : Type} {x : Except ε α} {f : α → Except ε β} {b : β} :
    (x >>= f) = .ok b ↔ ∃ a, x = .ok a ∧ f a = .ok b := by
  cases x with
  | error e => simp [bind, Except.bind]
  | ok a => simp [bind, Except.bind]

/-- What was read from a text is what stands at its root. -/
theorem of_readText {α : Type} {read : Reader α} {gs : List Glyph} {a : α}
    (h : readText read gs = .ok a) :
    read (.text depthLimit) (Document.parse gs).root = .ok a := by
  unfold readText readDocument at h
  obtain ⟨a', ha, h⟩ := bind_eq_ok_iff.mp h
  split at h
  · cases h
  · cases h
    exact ha

section Records

variable {δ α : Type} {fields : List (Field δ)} {P : δ → Prop}

/-- Whether a field that is read at a place keeps what holds of drafts. -/
def Field.KeepsAt (origin : Origin) (P : δ → Prop) (field : Field δ) : Prop :=
  ∀ v draft draft', P draft → field.read origin v draft = .ok draft' → P draft'

/-- Whether a field keeps what holds of drafts. -/
def Field.Keeps (P : δ → Prop) (field : Field δ) : Prop :=
  ∀ origin v draft draft', P draft → field.read origin v draft = .ok draft' → P draft'

theorem Field.of_keepsAt {β : Type} {name : String} {optional : Bool} {get : δ → Option β}
    {set : β → δ → δ} {read : Reader β} {origin : Origin}
    (h : ∀ v b draft, read origin v = .ok b → P draft → P (set b draft)) :
    (Field.of name optional get set read).KeepsAt origin P := by
  intro v draft draft' hdraft hread
  obtain ⟨b, hb, heq⟩ := bind_eq_ok_iff.mp hread
  cases heq
  exact h v b draft hb hdraft

theorem Field.of_keeps {β : Type} {name : String} {optional : Bool} {get : δ → Option β}
    {set : β → δ → δ} {read : Reader β}
    (h : ∀ origin v b draft, read origin v = .ok b → P draft → P (set b draft)) :
    (Field.of name optional get set read).Keeps P :=
  fun origin => Field.of_keepsAt (h origin)

theorem readMembers_keeps {origin : Origin} (hfields : ∀ field ∈ fields, field.KeepsAt origin P)
    {draft' : δ} :
    ∀ (members : Members) {draft : δ}, P draft →
      readMembers fields origin draft members = .ok draft' → P draft'
  | .close, draft, hdraft, h => by
    cases h
    exact hdraft
  | .stop f, draft, hdraft, h => by cases h
  | .member name v rest, draft, hdraft, h => by
    rw [readMembers] at h
    obtain ⟨name, -, h⟩ := bind_eq_ok_iff.mp h
    split at h
    next field hfound =>
      split at h
      next => cases h
      next =>
        obtain ⟨next, hread, h⟩ := bind_eq_ok_iff.mp h
        have hnext := hfields field (List.mem_of_find?_eq_some hfound) _ _ _ hdraft hread
        exact readMembers_keeps hfields rest hnext h
    next =>
      obtain ⟨-, -, h⟩ := bind_eq_ok_iff.mp h
      exact readMembers_keeps hfields rest hdraft h

theorem readPositions_keeps {shape : String} {origin : Origin}
    (hfields : ∀ field ∈ fields, field.KeepsAt origin P)
    {count : Nat} {draft draft' : δ} {items rest : Items} (hdraft : P draft)
    (h : readPositions shape origin count draft fields items = .ok (draft', rest)) : P draft' := by
  induction fields generalizing count draft items with
  | nil =>
    rw [readPositions] at h
    cases h
    exact hdraft
  | cons field fields ih =>
    have hmore : ∀ f ∈ fields, f.KeepsAt origin P :=
      fun f hf => hfields f (List.mem_cons_of_mem field hf)
    cases items with
    | item v more =>
      rw [readPositions] at h
      obtain ⟨next, hread, h⟩ := bind_eq_ok_iff.mp h
      exact ih hmore (hfields field List.mem_cons_self _ _ _ hdraft hread) h
    | stop comma f =>
      rw [readPositions] at h
      cases h
    | close =>
      rw [readPositions] at h
      split at h
      next => exact ih hmore hdraft h
      next => cases h

/-- Whether a record is read from an object or from an array, its fields make a draft of it, read
one level below the record. -/
theorem readRecord_keepsBelow {shape : String} {draft : δ} {finish : δ → Except ReadError α}
    {origin : Origin} {v : Node} {a : α}
    (hfields : ∀ inner, origin.enter = .ok inner → ∀ field ∈ fields, field.KeepsAt inner P)
    (hdraft : P draft) (h : readRecord shape fields draft finish origin v = .ok a) :
    ∃ draft', P draft' ∧ finish draft' = .ok a := by
  cases v with
  | leaf kept skipped =>
    rw [readRecord] at h
    obtain ⟨_, -, h⟩ := bind_eq_ok_iff.mp h
    cases h
  | array items =>
    rw [readRecord] at h
    obtain ⟨inner, henter, h⟩ := bind_eq_ok_iff.mp h
    unfold readSequence at h
    obtain ⟨⟨draft', rest⟩, hread, h⟩ := bind_eq_ok_iff.mp h
    obtain ⟨a', hfinish, h⟩ := bind_eq_ok_iff.mp h
    obtain ⟨-, -, h⟩ := bind_eq_ok_iff.mp h
    cases h
    exact ⟨draft', readPositions_keeps (hfields inner henter) hdraft hread, hfinish⟩
  | object members =>
    rw [readRecord] at h
    obtain ⟨inner, henter, h⟩ := bind_eq_ok_iff.mp h
    obtain ⟨draft', hread, hfinish⟩ := bind_eq_ok_iff.mp h
    exact ⟨draft', readMembers_keeps (hfields inner henter) members hdraft hread, hfinish⟩

theorem readRecord_keeps {shape : String} {draft : δ} {finish : δ → Except ReadError α}
    {origin : Origin} {v : Node} {a : α} (hfields : ∀ field ∈ fields, field.Keeps P)
    (hdraft : P draft) (h : readRecord shape fields draft finish origin v = .ok a) :
    ∃ draft', P draft' ∧ finish draft' = .ok a :=
  readRecord_keepsBelow (fun inner _ field hfield => hfields field hfield inner) hdraft h

end Records

section Maps

variable {α : Type} {read : Reader α} {P : α → Prop}

theorem readEntries_keeps (hread : ∀ origin v a, read origin v = .ok a → P a) {origin : Origin}
    {m' : SortedMap α} : ∀ (members : Members) {m : SortedMap α},
      (∀ key a, m.get? key = some a → P a) → readEntries read origin m members = .ok m' →
        ∀ key a, m'.get? key = some a → P a
  | .close, m, hm, h => by
    cases h
    exact hm
  | .stop f, m, hm, h => by cases h
  | .member name v rest, m, hm, h => by
    rw [readEntries] at h
    obtain ⟨name, -, h⟩ := bind_eq_ok_iff.mp h
    obtain ⟨a, ha, h⟩ := bind_eq_ok_iff.mp h
    refine readEntries_keeps hread rest (fun key b hb => ?_) h
    rw [SortedMap.get?_insert] at hb
    split at hb
    next =>
      cases hb
      exact hread origin v a ha
    next => exact hm key b hb

theorem readMap_keeps (hread : ∀ origin v a, read origin v = .ok a → P a) {origin : Origin}
    {v : Node} {m : SortedMap α} (h : readMap read origin v = .ok m) :
    ∀ key a, m.get? key = some a → P a := by
  cases v with
  | leaf kept skipped =>
    obtain ⟨_, -, h⟩ := bind_eq_ok_iff.mp h
    cases h
  | array items => cases h
  | object members =>
    obtain ⟨inner, -, h⟩ := bind_eq_ok_iff.mp h
    refine readEntries_keeps hread members (fun key a ha => ?_) h
    rw [SortedMap.get?_empty] at ha
    cases ha

end Maps

end BearerSession.Json
