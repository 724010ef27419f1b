import BearerSession.Session.Auth

namespace BearerSession

namespace Headers

variable {base upper : Headers} {name : String}

theorem overlay_get?_of_named {spelling : String} (hs : spelling ∈ upper.keys)
    (hn : sameName name spelling = true) : (base.overlay upper).get? name = upper.get? name := by
  have hany : upper.keys.any (sameName name) = true := List.any_eq_true.mpr ⟨spelling, hs, hn⟩
  unfold overlay
  rw [SortedMap.get?_union, SortedMap.get?_filter]
  cases base.get? name <;> simp [hany, Option.filter]

theorem sameName_self (name : String) : sameName name name = true := decide_eq_true rfl

theorem overlay_get?_of_some {value : String} (h : upper.get? name = some value) :
    (base.overlay upper).get? name = some value := by
  rw [overlay_get?_of_named (SortedMap.mem_keys_of_get? h) (sameName_self name), h]

theorem mem_keys_iff {α : Type} {m : SortedMap α} {key : String} :
    key ∈ m.keys ↔ (m.get? key).isSome = true := by
  constructor
  · intro h
    obtain ⟨entry, hentry, rfl⟩ := List.mem_map.mp h
    rw [SortedMap.get?_of_mem hentry]
    rfl
  · intro h
    obtain ⟨value, hvalue⟩ := Option.isSome_iff_exists.mp h
    exact SortedMap.mem_keys_of_get? hvalue

/-- Another value for a name that the upper set has is another value for it in the whole. -/
theorem overlay_insert (value : String) (hn : name ∈ upper.keys) :
    base.overlay (upper.insert name value) = (base.overlay upper).insert name value := by
  have hkeys (key : String) : key ∈ (upper.insert name value).keys ↔ key ∈ upper.keys := by
    rw [mem_keys_iff, mem_keys_iff, SortedMap.get?_insert]
    by_cases hk : key = name
    · simp [hk, mem_keys_iff.mp hn]
    · simp [hk]
  have hany (key : String) : (upper.insert name value).keys.any (sameName key) =
      upper.keys.any (sameName key) := by
    rw [Bool.eq_iff_iff, List.any_eq_true, List.any_eq_true]
    exact exists_congr fun spelling => and_congr_left fun _ => hkeys spelling
  refine SortedMap.ext_get? fun key => ?_
  unfold overlay
  simp only [SortedMap.get?_union, SortedMap.get?_insert, hany]
  by_cases hk : key = name <;> simp [hk]

end Headers

theorem bearer_insert (left right : Secret) :
    bearer right = (bearer left).insert authorization ("Bearer " ++ right.expose) :=
  SortedMap.ext_get? fun key => by by_cases hk : key = authorization <;> simp [bearer, hk]

/-- However a request spells it, its authorization gives way to the credential of the attempt. -/
theorem overlay_bearer_get? (base headers : Headers) (access : Secret) {name : String}
    (hn : Headers.sameName name authorization = true) :
    (base.overlay (headers.overlay (bearer access))).get? name =
      if name = authorization then some ("Bearer " ++ access.expose) else none := by
  have hbearer : (bearer access).get? authorization = some ("Bearer " ++ access.expose) := by
    simp [bearer]
  have hlaid : (headers.overlay (bearer access)).get? authorization =
      some ("Bearer " ++ access.expose) := Headers.overlay_get?_of_some hbearer
  rw [Headers.overlay_get?_of_named (SortedMap.mem_keys_of_get? hlaid) hn,
    Headers.overlay_get?_of_named (SortedMap.mem_keys_of_get? hbearer) hn]
  simp [bearer]

end BearerSession
