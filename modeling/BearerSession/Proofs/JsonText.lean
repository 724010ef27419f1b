import BearerSession.Json.Reader
import BearerSession.Proofs.JsonNumber

namespace BearerSession.Json

namespace Value

mutual

/-- Whether a value has no binary fractions in it. -/
def IsExact : Value → Prop
  | .number (.binary _) => False
  | .array vs => AreExact vs
  | .object fields => AreExactFields fields
  | _ => True

/-- Whether values have no binary fractions in them. -/
def AreExact : List Value → Prop
  | [] => True
  | v :: vs => v.IsExact ∧ AreExact vs

/-- Whether fields have no binary fractions in their values. -/
def AreExactFields : List (String × Value) → Prop
  | [] => True
  | (_, v) :: fields => v.IsExact ∧ AreExactFields fields

end

end Value

/-- Whether a value may come next, within given frames. -/
def Expect.Awaits (e : Expect) (frames : List Frame) : Prop :=
  ∀ t, t ≠ .closeArray → e.step t = takeValue t frames

section Awaits

variable {e : Expect} {frames : List Frame}

theorem awaits_value (frames : List Frame) : (Expect.value frames).Awaits frames := fun _ _ => rfl

theorem awaits_firstItem (frames : List Frame) :
    (Expect.firstItem frames).Awaits (.array [] :: frames) := by
  intro t ht
  cases t <;> first | rfl | exact absurd rfl ht

theorem awaits_nextItem (items : List Node) (frames : List Frame) :
    (Expect.nextItem items frames).Awaits (.array items :: frames) := fun _ _ => rfl

theorem run_of_step {t : Token} {e' : Expect} (h : e.step t = some (.inl e')) (ts : List Token) :
    e.run (t :: ts) = e'.run ts := by
  rw [Expect.run, h]

theorem Expect.Awaits.run_value (he : e.Awaits frames) {t : Token} {e' : Expect}
    (hv : takeValue t frames = some (.inl e')) (ht : t ≠ .closeArray) (ts : List Token) :
    e.run (t :: ts) = e'.run ts :=
  run_of_step ((he t ht).trans hv) ts

end Awaits

section Punctuation

variable (gs : List Glyph)

theorem tokensAfter_openArray :
    tokensAfter 0 (some '[' :: gs) = .openArray :: tokensAfter 0 gs := rfl

theorem tokensAfter_closeArray :
    tokensAfter 0 (some ']' :: gs) = .closeArray :: tokensAfter 0 gs := rfl

theorem tokensAfter_openObject :
    tokensAfter 0 (some '{' :: gs) = .openObject :: tokensAfter 0 gs := rfl

theorem tokensAfter_closeObject :
    tokensAfter 0 (some '}' :: gs) = .closeObject :: tokensAfter 0 gs := rfl

theorem tokensAfter_comma : tokensAfter 0 (some ',' :: gs) = .comma :: tokensAfter 0 gs := rfl

theorem tokensAfter_colon : tokensAfter 0 (some ':' :: gs) = .colon :: tokensAfter 0 gs := rfl

theorem tokensAfter_null :
    tokensAfter 0 (['n', 'u', 'l', 'l'].map some ++ gs) =
      .plain (.ok .null) (.ok ()) :: tokensAfter 0 gs := rfl

theorem tokensAfter_bool (b : Bool) :
    tokensAfter 0 ((boolText b).map some ++ gs) =
      .plain (.ok (.bool b)) (.ok ()) :: tokensAfter 0 gs := by
  cases b <;> rfl

end Punctuation

theorem endsNumber_cons {g : Glyph} (gs : List Glyph)
    (hg : digit? g = none ∧ g ≠ some '.' ∧ g ≠ some 'e' ∧ g ≠ some 'E') : EndsNumber (g :: gs) := by
  intro g' hg'
  cases hg'
  exact hg

theorem endsNumber_items (vs : List Value) (gs : List Glyph) :
    EndsNumber ((Value.compactItems vs).map some ++ gs) := by
  cases vs with
  | nil => exact endsNumber_cons gs (by decide)
  | cons v vs => exact endsNumber_cons _ (by decide)

theorem endsNumber_fields (fields : List (String × Value)) (gs : List Glyph) :
    EndsNumber ((Value.compactFields fields).map some ++ gs) := by
  cases fields with
  | nil => exact endsNumber_cons gs (by decide)
  | cons field fields => exact endsNumber_cons _ (by decide)

mutual

/-- Where a value may come, its text is read as the value. -/
theorem run_compact : ∀ v : Value, v.IsExact → ∀ {e : Expect} {frames : List Frame} {gs : List Glyph},
    e.Awaits frames → EndsNumber gs →
    e.run (tokensAfter 0 (v.compact.map some ++ gs)) =
      (Expect.after (Node.ofValue v) frames).run (tokensAfter 0 gs)
  | .null, _, e, frames, gs, he, _ => by
    rw [Value.compact, tokensAfter_null, he.run_value rfl (by simp)]
    rfl
  | .bool b, _, e, frames, gs, he, _ => by
    rw [Value.compact, tokensAfter_bool, he.run_value rfl (by simp)]
    rfl
  | .number (.whole w), _, e, frames, gs, he, hgs => by
    rw [Value.compact, Number.text, tokensAfter_whole w hgs, he.run_value rfl (by simp)]
    rfl
  | .string s, _, e, frames, gs, he, _ => by
    rw [Value.compact, tokensAfter_quote, he.run_value rfl (by simp)]
    rfl
  | .array [], _, e, frames, gs, he, _ => by
    rw [Value.compact, List.map_cons, List.cons_append, tokensAfter_openArray,
      he.run_value rfl (by simp), List.map_cons, List.cons_append, tokensAfter_closeArray,
      run_of_step rfl]
    rfl
  | .array (v :: vs), hv, e, frames, gs, he, _ => by
    rw [Value.compact, List.map_cons, List.cons_append, tokensAfter_openArray,
      he.run_value rfl (by simp), List.map_append, List.append_assoc,
      run_compact v hv.1 (awaits_firstItem frames) (endsNumber_items vs gs),
      run_compactItems vs hv.2]
    rfl
  | .object [], _, e, frames, gs, he, _ => by
    rw [Value.compact, List.map_cons, List.cons_append, tokensAfter_openObject,
      he.run_value rfl (by simp), List.map_cons, List.cons_append, tokensAfter_closeObject,
      run_of_step rfl]
    rfl
  | .object ((name, v) :: fields), hv, e, frames, gs, he, _ => by
    rw [Value.compact, List.map_cons, List.cons_append, tokensAfter_openObject,
      he.run_value rfl (by simp), List.map_append, List.append_assoc, tokensAfter_quote,
      run_of_step rfl, List.map_cons, List.cons_append, tokensAfter_colon, run_of_step rfl,
      List.map_append, List.append_assoc,
      run_compact v hv.1 (awaits_value _) (endsNumber_fields fields gs),
      run_compactFields fields hv.2]
    rfl

/-- The further items of an array are read to its end. -/
theorem run_compactItems : ∀ vs : List Value, Value.AreExact vs →
    ∀ {v : Node} {items : List Node} {frames : List Frame} {gs : List Glyph},
    (Expect.after v (.array items :: frames)).run
        (tokensAfter 0 ((Value.compactItems vs).map some ++ gs)) =
      (Expect.after (.array (Items.prepend (v :: items) (Node.itemsOfValues vs))) frames).run
        (tokensAfter 0 gs)
  | [], _, v, items, frames, gs => by
    rw [Value.compactItems, List.map_cons, List.cons_append, tokensAfter_closeArray, run_of_step rfl]
    rfl
  | w :: vs, hvs, v, items, frames, gs => by
    rw [Value.compactItems, List.map_cons, List.cons_append, tokensAfter_comma, run_of_step rfl,
      List.map_append, List.append_assoc,
      run_compact w hvs.1 (awaits_nextItem _ frames) (endsNumber_items vs gs),
      run_compactItems vs hvs.2]
    rfl

/-- The further fields of an object are read to its end. -/
theorem run_compactFields : ∀ fields : List (String × Value), Value.AreExactFields fields →
    ∀ {v : Node} {read : List (Except Fault String × Node)} {name : Except Fault String}
      {frames : List Frame} {gs : List Glyph},
    (Expect.after v (.object read name :: frames)).run
        (tokensAfter 0 ((Value.compactFields fields).map some ++ gs)) =
      (Expect.after (.object (Members.prepend ((name, v) :: read) (Node.membersOfFields fields)))
        frames).run (tokensAfter 0 gs)
  | [], _, v, read, name, frames, gs => by
    rw [Value.compactFields, List.map_cons, List.cons_append, tokensAfter_closeObject,
      run_of_step rfl]
    rfl
  | (next, w) :: fields, hfields, v, read, name, frames, gs => by
    rw [Value.compactFields, List.map_cons, List.cons_append, tokensAfter_comma, run_of_step rfl,
      List.map_append, List.append_assoc, tokensAfter_quote, run_of_step rfl, List.map_cons,
      List.cons_append, tokensAfter_colon, run_of_step rfl, List.map_append, List.append_assoc,
      run_compact w hfields.1 (awaits_value _) (endsNumber_fields fields gs),
      run_compactFields fields hfields.2]
    rfl

end

/-- A value is read back from its text. -/
theorem parse_compact (v : Value) (hv : v.IsExact) :
    Document.parse (v.compact.map some) = ⟨Node.ofValue v, false⟩ := by
  have hrun : (Expect.value []).run (tokensAfter 0 (v.compact.map some ++ [])) = _ :=
    run_compact v hv (awaits_value []) fun g hg => nomatch hg
  rw [List.append_nil] at hrun
  exact hrun

end BearerSession.Json
