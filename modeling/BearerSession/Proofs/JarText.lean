import BearerSession.Proofs.EntryText
import BearerSession.Proofs.InstantOrder
import BearerSession.Proofs.JsonLayout
import BearerSession.Proofs.RecordReading
import BearerSession.Store.FileJar

namespace BearerSession

open Json (Node Reads Value bind_eq_ok_iff)

theorem Instant.plus_isRegular (t : Instant) (s : Span) : (t.plus s).IsRegular :=
  isRegular_of_nano_lt (plus_nano_lt t s)

namespace StoredEntry

theorem readInstant_isRegular {origin : Json.Origin} {v : Node} {t : Instant}
    (h : readInstant origin v = .ok t) : t.IsRegular := by
  obtain ⟨s, -, h⟩ := bind_eq_ok_iff.mp h
  split at h
  next t' ht =>
    cases h
    exact Instant.read?_isRegular ht
  next => cases h

theorem read_isRegular {origin : Json.Origin} {v : Node} {e : StoredEntry}
    (h : StoredEntry.read origin v = .ok e) : e.expiresAt.IsRegular := by
  have hkeeps : ∀ field ∈ fields, field.Keeps fun d : Draft =>
      ∀ t, d.expiresAt = some t → t.IsRegular := by
    intro field hfield
    simp only [fields, List.mem_cons, List.not_mem_nil, or_false] at hfield
    rcases hfield with rfl | rfl
    · exact Json.Field.of_keeps fun origin v a draft _ hdraft => hdraft
    · refine Json.Field.of_keeps fun origin v a draft ha hdraft t ht => ?_
      cases ht
      exact readInstant_isRegular ha
  have hstart : ∀ t, ({} : Draft).expiresAt = some t → t.IsRegular := by
    intro t ht
    cases ht
  unfold StoredEntry.read at h
  obtain ⟨⟨value, expiresAt⟩, hdraft, hfinish⟩ := Json.readRecord_keeps hkeeps hstart h
  obtain ⟨value, -, hfinish⟩ := bind_eq_ok_iff.mp hfinish
  obtain ⟨t, ht, hfinish⟩ := bind_eq_ok_iff.mp hfinish
  cases hfinish
  cases expiresAt with
  | none => cases ht
  | some _ =>
    cases ht
    exact hdraft _ rfl

end StoredEntry

namespace JarData

/-- Whether the time of every entry is read back from its text. -/
def IsRegular (d : JarData) : Prop := ∀ key e, d.entries.get? key = some e → e.expiresAt.IsRegular

theorem read_isRegular {origin : Json.Origin} {v : Node} {d : JarData}
    (h : JarData.read origin v = .ok d) : d.IsRegular := by
  have hkeeps : ∀ field ∈ fields, field.Keeps fun draft : Draft =>
      ∀ entries, draft.entries = some entries →
        ∀ key e, entries.get? key = some e → e.expiresAt.IsRegular := by
    intro field hfield
    simp only [fields, List.mem_cons, List.not_mem_nil, or_false] at hfield
    rcases hfield with rfl | rfl
    · exact Json.Field.of_keeps fun origin v a draft _ hdraft => hdraft
    · refine Json.Field.of_keeps fun origin v a draft ha hdraft entries hentries => ?_
      cases hentries
      exact Json.readMap_keeps (P := fun e => e.expiresAt.IsRegular)
        (fun _ _ _ => StoredEntry.read_isRegular) ha
  have hstart : ∀ entries, ({} : Draft).entries = some entries →
      ∀ key e, entries.get? key = some e → e.expiresAt.IsRegular := by
    intro entries hentries
    cases hentries
  unfold JarData.read at h
  obtain ⟨⟨version, entries?⟩, hdraft, hfinish⟩ := Json.readRecord_keeps hkeeps hstart h
  obtain ⟨version', -, hfinish⟩ := bind_eq_ok_iff.mp hfinish
  obtain ⟨entries', hentries, hfinish⟩ := bind_eq_ok_iff.mp hfinish
  cases hfinish
  cases entries? with
  | none => cases hentries
  | some _ =>
    cases hentries
    exact hdraft _ rfl

theorem ofText_isRegular {s : String} {d : JarData} (h : JarData.ofText s = .ok d) :
    d.IsRegular :=
  read_isRegular (Json.of_readText h)

theorem IsRegular.empty : IsRegular {} := fun _ _ h => nomatch h

theorem IsRegular.insert {d : JarData} (h : d.IsRegular) (key : String) {e : StoredEntry}
    (he : e.expiresAt.IsRegular) : IsRegular { d with entries := d.entries.insert key e } := by
  intro key' e' he'
  rw [SortedMap.get?_insert] at he'
  split at he'
  next =>
    cases he'
    exact he
  next => exact h key' e' he'

theorem IsRegular.filter {d : JarData} (h : d.IsRegular) (keep : String × StoredEntry → Bool) :
    IsRegular { d with entries := d.entries.filter keep } := by
  intro key e he
  rw [SortedMap.get?_filter] at he
  exact h key e (Option.filter_eq_some_iff.mp he).1

theorem encode_isExact (d : JarData) : d.encode.IsExact := by
  have hfields : ∀ es : List (String × StoredEntry),
      Value.AreExactFields (es.map fun entry => (entry.1, entry.2.encode)) := by
    intro es
    induction es with
    | nil => trivial
    | cons e es ih => exact ⟨⟨trivial, trivial, trivial⟩, ih⟩
  exact ⟨trivial, hfields d.entries.toList, trivial⟩

theorem IsRegular.reads {d : JarData} (h : d.IsRegular) : Reads JarData.read d.encode d := by
  have hentries : Reads (Json.readMap StoredEntry.read)
      (.object (d.entries.entries.map fun e => (e.1, e.2.encode))) d.entries :=
    .map fun e he => StoredEntry.reads Value.layout_id (h e.1 e.2 (SortedMap.get?_of_mem he))
  exact Value.layout_id.record (by simp [fields, Json.Field.of_apart]) (by decide) (by simp)
    (.found rfl (.uint32 d.version) (.found rfl hentries .done)) rfl

theorem depth_encode_le (d : JarData) : d.encode.depth ≤ 3 := by
  have hentries : ∀ e ∈ d.entries.toList.map fun e => (e.1, StoredEntry.encode e.2),
      e.2.depth ≤ 1 := by
    intro e he
    obtain ⟨e, -, rfl⟩ := List.mem_map.mp he
    exact e.2.depth_encode_le
  have hobject := Value.depth_object_le hentries
  refine Value.depth_object_le (List.forall_mem_cons.mpr ⟨Nat.zero_le 2, ?_⟩)
  exact List.forall_mem_singleton.mpr hobject

theorem IsRegular.ofText_pretty {d : JarData} (h : d.IsRegular) :
    JarData.ofText d.encode.pretty = .ok d := by
  have hread : JarData.read (.text Json.depthLimit) (Node.ofValue d.encode) = .ok d :=
    h.reads _ (Nat.le_trans d.depth_encode_le (show 3 ≤ 127 by decide))
  unfold JarData.ofText Json.readText
  rw [Value.pretty, String.toList_ofList, Json.parse_spread _ d.encode_isExact]
  unfold Json.readDocument
  rw [hread]
  rfl

end JarData

end BearerSession
