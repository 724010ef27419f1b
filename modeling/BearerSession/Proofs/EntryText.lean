import BearerSession.Proofs.JsonText
import BearerSession.Proofs.RecordWriting
import BearerSession.Proofs.TimestampText
import BearerSession.Store.Keyring

namespace BearerSession

open Json (Node Reads Value readText readDocument Document)

theorem readText_of_exact {α : Type} (read : Json.Reader α) (v : Json.Value) (hv : v.IsExact) :
    readText read (v.text.toList.map some) = read (.text Json.depthLimit) (Node.ofValue v) := by
  unfold readText Json.Value.text
  rw [String.toList_ofList, Json.parse_compact v hv]
  unfold readDocument
  cases read (.text Json.depthLimit) (Node.ofValue v) <;> rfl

theorem Secret.reads (s : Secret) : Reads Secret.read s.encode s := fun _ _ => rfl

namespace StoredEntry

theorem readInstant_text {t : Instant} (ht : t.IsRegular) : Reads readInstant (.string t.text) t := by
  intro origin _
  have hread : Json.readStringAs "an RFC 3339 formatted date and time string" origin
      (Node.ofValue (.string t.text)) = .ok t.text := rfl
  unfold readInstant
  rw [hread]
  simp only [bind, Except.bind, ht.read?_text]
  rfl

theorem reads {f : Value → Value} (hf : Value.Layout f) {e : StoredEntry}
    (he : e.expiresAt.IsRegular) : Reads StoredEntry.read (f e.encode) e :=
  hf.record (by simp [fields, Json.Field.of_apart]) (by decide) (by simp)
    (.found rfl (hf.reads trivial (Secret.reads e.value))
      (.found rfl (hf.reads trivial (readInstant_text he)) .done)) rfl

theorem depth_encode_le (e : StoredEntry) : e.encode.depth ≤ 1 := Nat.le_refl 1

end StoredEntry

/-- An entry is read back from its item in a vault. -/
theorem readEntry_encode (e : StoredEntry) (he : e.expiresAt.nano < 1000000000) :
    Keyring.readEntry e.encode.text = .ok e := by
  have hexact : e.encode.IsExact := ⟨trivial, trivial, trivial⟩
  unfold Keyring.readEntry
  have hread : StoredEntry.read (.text Json.depthLimit) (Node.ofValue e.encode) = .ok e :=
    StoredEntry.reads Value.layout_id (Instant.isRegular_of_nano_lt he) _ (show 1 ≤ 127 by decide)
  rw [readText_of_exact _ _ hexact, hread]

end BearerSession
