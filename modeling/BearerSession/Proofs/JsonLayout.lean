import BearerSession.Proofs.JsonText

namespace BearerSession.Json

section Layout

variable {gs gs' : List Glyph} {level : Nat}

theorem tokensAfter_newline (level : Nat) (gs : List Glyph) :
    tokensAfter 0 ((Value.newline level).map some ++ gs) = tokensAfter 0 gs := by
  have hspaces : ∀ n, tokensAfter 0 ((List.replicate n ' ').map some ++ gs) = tokensAfter 0 gs := by
    intro n
    induction n with
    | zero => rfl
    | succ n ih => exact ih
  exact hspaces (2 * level)

theorem endsNumber_newline (level : Nat) (gs : List Glyph) :
    EndsNumber ((Value.newline level).map some ++ gs) := endsNumber_cons _ (by decide)

theorem endsNumber_spreadItems (vs : List Value) (gs : List Glyph) :
    EndsNumber ((Value.spreadItems level vs).map some ++ gs) := by
  cases vs with
  | nil =>
    rw [Value.spreadItems, List.map_append, List.append_assoc]
    exact endsNumber_newline _ _
  | cons v vs => exact endsNumber_cons _ (by decide)

theorem endsNumber_spreadFields (fields : List (String × Value)) (gs : List Glyph) :
    EndsNumber ((Value.spreadFields level fields).map some ++ gs) := by
  cases fields with
  | nil =>
    rw [Value.spreadFields, List.map_append, List.append_assoc]
    exact endsNumber_newline _ _
  | cons field fields => exact endsNumber_cons _ (by decide)

theorem tokensAfter_space (gs : List Glyph) :
    tokensAfter 0 (some ' ' :: gs) = tokensAfter 0 gs := rfl

mutual

/-- Before texts with the same tokens, the two texts of a value have the same tokens. -/
theorem tokensAfter_spread (level : Nat) : ∀ v : Value, v.IsExact → ∀ {gs gs' : List Glyph},
    EndsNumber gs → EndsNumber gs' → tokensAfter 0 gs = tokensAfter 0 gs' →
    tokensAfter 0 ((v.spread level).map some ++ gs) = tokensAfter 0 (v.compact.map some ++ gs')
  | .null, _, gs, gs', _, _, h => by
    rw [Value.spread, Value.compact, tokensAfter_null, tokensAfter_null, h]
  | .bool b, _, gs, gs', _, _, h => by
    rw [Value.spread, Value.compact, tokensAfter_bool, tokensAfter_bool, h]
  | .number (.whole w), _, gs, gs', hgs, hgs', h => by
    rw [Value.spread, Value.compact, Number.text, tokensAfter_whole w hgs, tokensAfter_whole w hgs',
      h]
  | .string s, _, gs, gs', _, _, h => by
    rw [Value.spread, Value.compact, tokensAfter_quote, tokensAfter_quote, h]
  | .array [], _, gs, gs', _, _, h => by
    simp only [Value.spread, Value.compact, List.map_cons, List.map_nil, List.cons_append,
      List.nil_append, tokensAfter_openArray, tokensAfter_closeArray, h]
  | .array (v :: vs), hv, gs, gs', _, _, h => by
    simp only [Value.spread, Value.compact, List.map_cons, List.map_append, List.cons_append,
      List.append_assoc, tokensAfter_openArray, tokensAfter_newline]
    rw [tokensAfter_spread (level + 1) v hv.1 (endsNumber_spreadItems vs gs)
      (endsNumber_items vs gs') (tokensAfter_spreadItems level vs hv.2 h)]
  | .object [], _, gs, gs', _, _, h => by
    simp only [Value.spread, Value.compact, List.map_cons, List.map_nil, List.cons_append,
      List.nil_append, tokensAfter_openObject, tokensAfter_closeObject, h]
  | .object ((name, v) :: fields), hv, gs, gs', _, _, h => by
    simp only [Value.spread, Value.compact, List.map_cons, List.map_append, List.cons_append,
      List.append_assoc, tokensAfter_openObject, tokensAfter_newline, tokensAfter_quote,
      tokensAfter_colon, tokensAfter_space]
    rw [tokensAfter_spread (level + 1) v hv.1 (endsNumber_spreadFields fields gs)
      (endsNumber_fields fields gs') (tokensAfter_spreadFields level fields hv.2 h)]

theorem tokensAfter_spreadItems (level : Nat) : ∀ vs : List Value, Value.AreExact vs →
    ∀ {gs gs' : List Glyph}, tokensAfter 0 gs = tokensAfter 0 gs' →
    tokensAfter 0 ((Value.spreadItems level vs).map some ++ gs) =
      tokensAfter 0 ((Value.compactItems vs).map some ++ gs')
  | [], _, gs, gs', h => by
    simp only [Value.spreadItems, Value.compactItems, List.map_append, List.map_cons, List.map_nil,
      List.append_assoc, List.cons_append, List.nil_append, tokensAfter_newline,
      tokensAfter_closeArray, h]
  | v :: vs, hvs, gs, gs', h => by
    simp only [Value.spreadItems, Value.compactItems, List.map_cons, List.map_append,
      List.cons_append, List.append_assoc, tokensAfter_comma, tokensAfter_newline]
    rw [tokensAfter_spread (level + 1) v hvs.1 (endsNumber_spreadItems vs gs)
      (endsNumber_items vs gs') (tokensAfter_spreadItems level vs hvs.2 h)]

theorem tokensAfter_spreadFields (level : Nat) : ∀ fields : List (String × Value),
    Value.AreExactFields fields → ∀ {gs gs' : List Glyph}, tokensAfter 0 gs = tokensAfter 0 gs' →
    tokensAfter 0 ((Value.spreadFields level fields).map some ++ gs) =
      tokensAfter 0 ((Value.compactFields fields).map some ++ gs')
  | [], _, gs, gs', h => by
    simp only [Value.spreadFields, Value.compactFields, List.map_append, List.map_cons,
      List.map_nil, List.append_assoc, List.cons_append, List.nil_append, tokensAfter_newline,
      tokensAfter_closeObject, h]
  | (name, v) :: fields, hfields, gs, gs', h => by
    simp only [Value.spreadFields, Value.compactFields, List.map_cons, List.map_append,
      List.cons_append, List.append_assoc, tokensAfter_comma, tokensAfter_newline,
      tokensAfter_quote, tokensAfter_colon, tokensAfter_space]
    rw [tokensAfter_spread (level + 1) v hfields.1 (endsNumber_spreadFields fields gs)
      (endsNumber_fields fields gs') (tokensAfter_spreadFields level fields hfields.2 h)]

end

theorem parse_spread (v : Value) (hv : v.IsExact) (level : Nat) :
    Document.parse ((v.spread level).map some) = ⟨Node.ofValue v, false⟩ := by
  have hnil : EndsNumber [] := fun g hg => nomatch hg
  have htokens := tokensAfter_spread level v hv hnil hnil rfl
  rw [List.append_nil, List.append_nil] at htokens
  rw [← parse_compact v hv]
  exact congrArg (Expect.value []).run htokens

end Layout

end BearerSession.Json
