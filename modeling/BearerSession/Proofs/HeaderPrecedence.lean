import BearerSession.Proofs.AuthCourse
import BearerSession.Proofs.HeaderOverlay

namespace BearerSession

namespace Headers

/-- The entries of a name in all its spellings. -/
def named (h : Headers) (name : String) : List (String × String) :=
  h.toList.filter fun e => sameName name e.1

variable {h h' : Headers} {name key : String}

theorem sameName_iff : sameName name key = true ↔ fold name = fold key := decide_eq_true_iff

theorem mem_named {e : String × String} :
    e ∈ h.named name ↔ h.get? e.1 = some e.2 ∧ sameName name e.1 = true := by
  have hmem : e ∈ h.toList ↔ h.get? e.1 = some e.2 :=
    ⟨SortedMap.get?_of_mem, SortedMap.find?_eq_some_mem⟩
  rw [named, List.mem_filter, hmem]

theorem named_eq_iff :
    h.named name = h'.named name ↔
      ∀ key, sameName name key = true → h.get? key = h'.get? key := by
  have hfind (h : Headers) (key : String) : SortedMap.find? key (h.named name) =
      (h.get? key).filter fun _ => sameName name key :=
    SortedMap.find?_filter _ key h.ascending
  constructor
  · intro heq key hkey
    have hboth := congrArg (SortedMap.find? key) heq
    have htrue (o : Option String) : o.filter (fun _ => true) = o := by cases o <;> rfl
    rw [hfind, hfind, hkey, htrue, htrue] at hboth
    exact hboth
  · intro hall
    refine SortedMap.eq_of_find?_eq (h.ascending.filter _) (h'.ascending.filter _) fun key => ?_
    have hkey := hfind h key
    have hkey' := hfind h' key
    cases hname : sameName name key with
    | true =>
      rw [hall key hname] at hkey
      exact hkey.trans hkey'.symm
    | false =>
      rw [hname] at hkey hkey'
      exact (hkey.trans (by cases h.get? key <;> rfl)).trans
        (hkey'.trans (by cases h'.get? key <;> rfl)).symm

/-- A set of headers is what it has for each name. -/
theorem ext_named (hall : ∀ name, h.named name = h'.named name) : h = h' :=
  SortedMap.ext_get? fun key => named_eq_iff.mp (hall key) key (sameName_self key)

theorem named_ne_nil_iff : h.named name ≠ [] ↔ h.keys.any (sameName name) = true := by
  rw [List.any_eq_true]
  constructor
  · intro hne
    obtain ⟨e, he⟩ := List.exists_mem_of_ne_nil _ hne
    obtain ⟨hget, hname⟩ := mem_named.mp he
    exact ⟨e.1, SortedMap.mem_keys_of_get? hget, hname⟩
  · rintro ⟨key, hkey, hname⟩
    obtain ⟨value, hvalue⟩ := Option.isSome_iff_exists.mp (mem_keys_iff.mp hkey)
    have hmem : (key, value) ∈ h.named name := mem_named.mpr ⟨hvalue, hname⟩
    exact List.ne_nil_of_mem hmem

/-- For each name the upper set decides if it has the name in any spelling. -/
theorem named_overlay (base upper : Headers) (name : String) :
    (base.overlay upper).named name =
      if upper.named name ≠ [] then upper.named name else base.named name := by
  split
  next hupper =>
    obtain ⟨spelling, hspelling, hname⟩ :=
      List.any_eq_true.mp (named_ne_nil_iff.mp hupper)
    refine named_eq_iff.mpr fun key hkey => overlay_get?_of_named hspelling ?_
    rw [sameName_iff] at *
    exact hkey.symm.trans hname
  next hupper =>
    have hnone : upper.keys.any (sameName name) = false :=
      Bool.eq_false_iff.mpr fun hany => hupper (named_ne_nil_iff.mpr hany)
    refine named_eq_iff.mpr fun key hkey => ?_
    have hfold : sameName name = sameName key := by
      funext spelling
      simp only [sameName, sameName_iff.mp hkey]
    have habsent : upper.get? key = none := by
      cases hget : upper.get? key with
      | none => rfl
      | some value =>
        have hany : upper.keys.any (sameName name) = true :=
          List.any_eq_true.mpr ⟨key, SortedMap.mem_keys_of_get? hget, hkey⟩
        rw [hnone] at hany
        cases hany
    rw [hfold] at hnone
    unfold overlay
    rw [SortedMap.get?_union, SortedMap.get?_filter, habsent, Option.none_or]
    cases base.get? key <;> simp [Option.filter, hnone]

theorem named_empty (name : String) : named .empty name = [] := rfl

theorem named_default (name : String) :
    named GraphQL.defaultHeaders name =
      if sameName name "Content-Type" then [("Content-Type", "application/json")] else [] := by
  have hentries : named GraphQL.defaultHeaders name =
      [("Content-Type", "application/json")].filter fun e => sameName name e.1 := rfl
  rw [hentries, List.filter_cons, List.filter_nil]

theorem overlay_assoc (a b c : Headers) : (a.overlay b).overlay c = a.overlay (b.overlay c) := by
  refine ext_named fun name => ?_
  simp only [named_overlay]
  by_cases hc : c.named name = [] <;> simp [hc]

theorem empty_overlay (h : Headers) : overlay .empty h = h := by
  refine ext_named fun name => ?_
  rw [named_overlay, named_empty]
  by_cases hnil : h.named name = [] <;> simp [hnil]

theorem overlay_empty (h : Headers) : h.overlay .empty = h := by
  refine ext_named fun name => ?_
  rw [named_overlay, named_empty, if_neg fun hne => hne rfl]

end Headers

/-- Whatever transport and hooks do, an attempt asks for headers and sends one message. Of each name
the message has, spelled as they are there, the entries that the hook supplied; or, where the hook
supplied none, those of the request; or, where this has none either, the default. Laying sets of
headers over each other is associative, and the empty set changes nothing. -/
theorem attempt_sends_headers {σ : Type} (transport : GraphQL.Transport (StateM σ))
    (log : Log (StateM σ)) (hooks : AuthHooks (StateM σ)) (destination : Url)
    (r : GraphQL.Request) (kind : Attempt) (s : σ) :
    (∃ auth message answer s',
      ((Auth.attempt transport.recorded log.unrecorded destination r hooks.recorded kind).run
        []).run s =
          ((received answer,
            [.headers auth, .sent destination message answer].filter hooks.takes), s') ∧
      (hooks.authHeader = none → auth = .empty) ∧
      ∀ name, message.headers.named name =
        if auth.named name ≠ [] then auth.named name
        else if r.headers.named name ≠ [] then r.headers.named name
        else if Headers.sameName name "Content-Type" then [("Content-Type", "application/json")]
        else []) ∧
    (∀ a b c : Headers, (a.overlay b).overlay c = a.overlay (b.overlay c)) ∧
    ∀ h : Headers, Headers.overlay .empty h = h ∧ h.overlay .empty = h := by
  refine ⟨?_, Headers.overlay_assoc, fun h => ⟨h.empty_overlay, h.overlay_empty⟩⟩
  obtain ⟨⟨auth, answer, bare⟩, s', hrecords⟩ :=
    records_attempt transport log hooks destination r kind s
  refine ⟨auth, attemptMessage r auth, answer, s', hrecords.recording [], bare, fun name => ?_⟩
  have hlayers : (attemptMessage r auth).headers =
      GraphQL.defaultHeaders.overlay (r.headers.overlay auth) := rfl
  rw [hlayers, Headers.named_overlay, Headers.named_overlay, Headers.named_default]
  by_cases hauth : auth.named name = [] <;> simp [hauth]

end BearerSession
