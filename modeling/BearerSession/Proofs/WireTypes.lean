import BearerSession.GraphQL.Envelope
import BearerSession.Proofs.JarText
import BearerSession.Proofs.RecordWriting

namespace BearerSession

open Json (Value Reader Origin Node Reads readText readMemory readValue depthLimit bind_eq_ok_iff
  allows_depthOfItems_iff allows_depthOfFields_iff)
open Json.Node (ofValue)

/-- A type that is sent or stored: how it is read and written, what its values can be in memory, and
as what they are read back. -/
structure Wire (α : Type) where
  read : Reader α
  encode : α → Value
  Sound : α → Prop
  settle : α → α

namespace Wire

variable {α : Type} (w : Wire α)

/-- Whether the values of a type survive their own encoding. Where a text is written it holds no
binary fractions and is nested no deeper than may be read, and where a value is put into memory the
fields of its objects are put in order. -/
structure Survives : Prop where
  /-- Any value, from its text. -/
  text : ∀ x, w.Sound x → (w.encode x).IsExact → (w.encode x).depth ≤ depthLimit →
    readText w.read ((w.encode x).text.toList.map some) = .ok (w.settle x)
  /-- Any value, from what it is in memory. -/
  memory : ∀ x, w.Sound x → readMemory w.read (w.encode x).sorted = .ok (w.settle x)
  /-- What was read from a text, in whatever form it stood there. -/
  textAgain : ∀ gs x, readText w.read gs = .ok x →
    readMemory w.read (w.encode x).sorted = .ok x ∧
      ((w.encode x).IsExact → readText w.read ((w.encode x).text.toList.map some) = .ok x)
  /-- What was read from a value in memory, of whatever form and depth. -/
  memoryAgain : ∀ v x, readMemory w.read v = .ok x →
    readMemory w.read (w.encode x).sorted = .ok x ∧
      ((w.encode x).IsExact → (w.encode x).depth ≤ depthLimit →
        readText w.read ((w.encode x).text.toList.map some) = .ok x)

/-- What is known of a value that was read. -/
structure Received (origin : Origin) (x : α) : Prop where
  sound : w.Sound x
  settled : w.settle x = x
  depth : origin.Allows (w.encode x).depth

variable {w}

/-- Five levels are the most that a value of any type here has beside its payload. -/
theorem survives
    (reads : ∀ {f : Value → Value}, Value.Layout f → ∀ x, w.Sound x →
      Reads w.read (f (w.encode x)) (w.settle x))
    (received : ∀ {origin node x}, origin.Allows 5 → w.read origin node = .ok x →
      w.Received origin x) : w.Survives := by
  have text (x : α) (sound : w.Sound x) (exact : (w.encode x).IsExact)
      (depth : (w.encode x).depth ≤ depthLimit) :
      readText w.read ((w.encode x).text.toList.map some) = .ok (w.settle x) := by
    rw [readText_of_exact w.read _ exact]
    exact reads Value.layout_id x sound (.text depthLimit) depth
  have memory (x : α) (sound : w.Sound x) :
      readMemory w.read (w.encode x).sorted = .ok (w.settle x) :=
    reads Value.layout_sorted x sound .memory trivial
  have again (x : α) (sound : w.Sound x) (settled : w.settle x = x) :
      readMemory w.read (w.encode x).sorted = .ok x ∧
        ((w.encode x).IsExact → (w.encode x).depth ≤ depthLimit →
          readText w.read ((w.encode x).text.toList.map some) = .ok x) := by
    have htext := text x sound
    have hmemory := memory x sound
    rw [settled] at htext hmemory
    exact ⟨hmemory, htext⟩
  refine ⟨text, memory, fun gs x h => ?_, fun v x h => ?_⟩
  · have hroom : (Origin.text depthLimit).Allows 5 := show 5 ≤ 127 by decide
    obtain ⟨hsound, hsettled, hdepth⟩ := received hroom (Json.of_readText h)
    obtain ⟨hmemory, htext⟩ := again x hsound hsettled
    exact ⟨hmemory, fun exact => htext exact hdepth⟩
  · obtain ⟨hsound, hsettled, -⟩ := received (show Origin.memory.Allows 5 from trivial) h
    exact again x hsound hsettled

/-- A type whose values are read back as they are, from one level. -/
theorem survives_flat (plain : ∀ x, w.settle x = x) (flat : ∀ x, (w.encode x).depth ≤ 1)
    (reads : ∀ {f : Value → Value}, Value.Layout f → ∀ x, w.Sound x →
      Reads w.read (f (w.encode x)) x)
    (sound : ∀ {origin node x}, w.read origin node = .ok x → w.Sound x) : w.Survives := by
  refine survives (fun hf x hx => ?_) fun room h => ?_
  · rw [plain]
    exact reads hf x hx
  · exact ⟨sound h, plain _, room.mono (Nat.le_trans (flat _) (by decide))⟩

end Wire

section Flat

variable {f : Value → Value} (hf : Value.Layout f)

include hf

theorem AccessGrant.reads (g : AccessGrant) : Reads AccessGrant.read (f g.encode) g :=
  hf.record (by simp [fields, Json.Field.of_apart]) (by decide) (by simp)
    (.found rfl (hf.reads trivial (Secret.reads g.access))
      (.found rfl (hf.reads trivial (.string g.tokenType)) .done)) rfl

theorem TokenPair.reads (p : TokenPair) : Reads TokenPair.read (f p.encode) p :=
  hf.record (by simp [fields, Json.Field.of_apart]) (by decide) (by simp)
    (.found rfl (hf.reads trivial (Secret.reads p.access))
      (.found rfl (hf.reads trivial (Secret.reads p.refresh))
        (.found rfl (hf.reads trivial (.string p.tokenType)) .done))) rfl

theorem CredentialKeys.reads (k : CredentialKeys) : Reads CredentialKeys.read (f k.encode) k :=
  hf.record (by simp [fields, Json.Field.of_apart]) (by decide) (by simp)
    (.found rfl (hf.reads trivial (.string k.access))
      (.found rfl (hf.reads trivial (.string k.refresh)) .done)) rfl

theorem GraphQL.ErrorLocation.reads (l : ErrorLocation) :
    Reads ErrorLocation.read (f l.encode) l :=
  hf.record (by simp [fields, Json.Field.of_apart]) (by decide) (by simp)
    (.found rfl (hf.reads trivial (.uint32 l.line))
      (.found rfl (hf.reads trivial (.uint32 l.column)) .done)) rfl

end Flat

def AccessGrant.wire : Wire AccessGrant := ⟨read, encode, fun _ => True, id⟩

def TokenPair.wire : Wire TokenPair := ⟨read, encode, fun _ => True, id⟩

def CredentialKeys.wire : Wire CredentialKeys := ⟨read, encode, fun _ => True, id⟩

def StoredEntry.wire : Wire StoredEntry := ⟨read, encode, fun e => e.expiresAt.IsRegular, id⟩

namespace GraphQL

def ErrorLocation.wire : Wire ErrorLocation := ⟨read, encode, fun _ => True, id⟩

theorem ErrorLocation.depth_encode_le (l : ErrorLocation) : l.encode.depth ≤ 1 := Nat.le_refl 1

namespace PathSegment

def wire : Wire PathSegment := ⟨read, encode, fun _ => True, id⟩

theorem ofValue?_eq_some_iff {v : Value} {s : PathSegment} :
    ofValue? v = some s ↔ v = s.encode := by
  constructor
  · intro h
    cases v with
    | string name =>
      cases h
      rfl
    | number n =>
      cases n with
      | whole n =>
        by_cases hn : 0 ≤ n.val
        · simp only [ofValue?, if_pos hn, Option.some.injEq] at h
          subst h
          obtain ⟨n, lower, upper⟩ := n
          have hn : 0 ≤ n := hn
          have hlt : n.toNat < UInt64.size := by
            rw [UInt64.size]
            omega
          have hback : (UInt64.ofNat n.toNat).toNat = n.toNat := UInt64.toNat_ofNat_of_lt' hlt
          simp only [encode, Value.whole, Json.Whole.ofUInt64, hback, Int.toNat_of_nonneg hn]
        · simp only [ofValue?, if_neg hn, reduceCtorEq] at h
      | binary x => cases h
    | _ => cases h
  · rintro rfl
    cases s with
    | field name => rfl
    | index i =>
      have hn : 0 ≤ (Json.Whole.ofUInt64 i).val := Int.natCast_nonneg _
      simp only [encode, Value.whole, ofValue?, if_pos hn]
      simp [Json.Whole.ofUInt64]

/-- A segment is read from what it is written as and from nothing else. -/
theorem read_eq_ok_iff {origin : Origin} {node : Node} {s : PathSegment} :
    read origin node = .ok s ↔ readValue origin node = .ok s.encode := by
  unfold read
  rw [bind_eq_ok_iff]
  constructor
  · rintro ⟨v, hv, h⟩
    split at h
    next s' hs =>
      cases h
      rw [hv, ofValue?_eq_some_iff.mp hs]
    next => cases h
  · intro h
    refine ⟨s.encode, h, ?_⟩
    rw [ofValue?_eq_some_iff.mpr rfl]
    rfl

theorem encode_isOrdered (s : PathSegment) : s.encode.IsOrdered := by
  cases s <;> trivial

theorem depth_encode_le (s : PathSegment) : s.encode.depth ≤ 1 := by
  cases s <;> exact Nat.zero_le 1

theorem reads {f : Value → Value} (hf : Value.Layout f) (s : PathSegment) :
    Reads read (f s.encode) s := by
  refine hf.reads s.encode_isOrdered fun origin hallows => read_eq_ok_iff.mpr ?_
  exact Reads.value s.encode_isOrdered origin hallows

end PathSegment

namespace ReportedError

def settle (e : ReportedError) : ReportedError :=
  { e with extensions := e.extensions.bind Value.present }

def wire : Wire ReportedError :=
  ⟨read, encode, fun e => ∀ v, e.extensions = some v → v.IsOrdered, settle⟩

theorem reads {f : Value → Value} (hf : Value.Layout f) (e : ReportedError) (sound : wire.Sound e) :
    Reads read (f e.encode) e.settle := by
  obtain ⟨message, locations, path, extensions⟩ := e
  have hlocations : Reads (Json.readList ErrorLocation.read)
      (f (.array (locations.map ErrorLocation.encode))) locations := by
    have hlist := Reads.list (fun l (_ : l ∈ locations) => ErrorLocation.reads hf l)
    rw [List.map_id'] at hlist
    rw [hf.array, List.map_map]
    exact hlist
  have hpath : Reads (Json.readList PathSegment.read)
      (f (.array (path.map PathSegment.encode))) path := by
    have hlist := Reads.list (fun s (_ : s ∈ path) => PathSegment.reads hf s)
    rw [List.map_id'] at hlist
    rw [hf.array, List.map_map]
    exact hlist
  have hmessage : Reads Json.readString (f (.string message)) message :=
    hf.reads trivial (.string message)
  cases extensions with
  | none =>
    exact hf.record (by simp [fields, Json.Field.of_apart]) (by decide) (by simp)
      (.found rfl hmessage (.found rfl hlocations (.found rfl hpath (.absent rfl .done)))) rfl
  | some v =>
    have hv : v.IsOrdered := sound v rfl
    exact hf.record (by simp [fields, Json.Field.of_apart]) (by decide) (by simp)
      (.found rfl hmessage (.found rfl hlocations (.found rfl hpath
        (.found rfl (hf.reads hv (.payload hv)) .done)))) rfl

/-- A draft whose extensions, if they were read, are in order and fit below an origin. -/
def Draft.Fits (origin : Origin) (d : Draft) : Prop :=
  ∀ v, d.extensions = some (some v) →
    v.present = some v ∧ v.IsOrdered ∧ origin.Allows (v.depth + 1)

theorem fields_keep {origin inner : Origin} (enter : origin.enter = .ok inner) :
    ∀ field ∈ fields, field.KeepsAt inner (Draft.Fits origin) := by
  intro field hfield
  simp only [fields, List.mem_cons, List.not_mem_nil, or_false] at hfield
  rcases hfield with rfl | rfl | rfl | rfl
  · exact Json.Field.of_keepsAt fun _ _ _ _ hdraft => hdraft
  · exact Json.Field.of_keepsAt fun _ _ _ _ hdraft => hdraft
  · exact Json.Field.of_keepsAt fun _ _ _ _ hdraft => hdraft
  · refine Json.Field.of_keepsAt fun node payload draft hread _ v hv => ?_
    cases hv
    obtain ⟨hpresent, hordered, hdepth⟩ := Json.of_readPayload hread
    exact ⟨hpresent, hordered, (Origin.allows_of_enter enter).mpr hdepth⟩

theorem allows_encode {origin : Origin} {e : ReportedError} (room : origin.Allows 3)
    (payload : ∀ v, e.extensions = some v → origin.Allows (v.depth + 1)) :
    origin.Allows e.encode.depth := by
  obtain ⟨inner, henter, hinner⟩ := room.enter
  refine (Origin.allows_of_enter henter).mpr (allows_depthOfFields_iff.mpr fun field hfield => ?_)
  simp only [List.cons_append, List.nil_append, List.mem_cons, Option.mem_toList,
    Option.map_eq_some_iff] at hfield
  rcases hfield with rfl | rfl | rfl | ⟨v, hv, rfl⟩
  · exact inner.allows_zero
  · refine hinner.mono (Value.depth_array_le (List.forall_mem_map.mpr fun l _ => ?_))
    exact l.depth_encode_le
  · refine hinner.mono (Value.depth_array_le (List.forall_mem_map.mpr fun s _ => ?_))
    exact s.depth_encode_le
  · exact (Origin.allows_of_enter henter).mp (payload v hv)

theorem received {origin : Origin} {node : Node} {e : ReportedError} (room : origin.Allows 3)
    (h : read origin node = .ok e) : wire.Received origin e := by
  have hstart : Draft.Fits origin {} := fun v hv => nomatch hv
  obtain ⟨draft, hdraft, hfinish⟩ :=
    Json.readRecord_keepsBelow (fun _ enter => fields_keep enter) hstart h
  obtain ⟨message, -, hfinish⟩ := bind_eq_ok_iff.mp hfinish
  cases hfinish
  have hpayload (v : Value) (hv : draft.extensions.join = some v) :=
    hdraft v (Option.join_eq_some_iff.mp hv)
  refine ⟨fun v hv => (hpayload v hv).2.1, ?_,
    allows_encode room fun v hv => (hpayload v hv).2.2⟩
  show ReportedError.mk _ _ _ (draft.extensions.join.bind Value.present) = _
  cases hjoin : draft.extensions.join with
  | none => rfl
  | some v => rw [Option.bind_some, (hpayload v hjoin).1]

end ReportedError

namespace Envelope

def settle (e : Envelope) : Envelope :=
  ⟨e.data.bind Value.present, e.errors.map fun es => es.map ReportedError.settle⟩

def wire : Wire Envelope where
  read := read
  encode := encode
  Sound e := (∀ v, e.data = some v → v.IsOrdered) ∧
    ∀ es, e.errors = some es → ∀ error ∈ es, ReportedError.wire.Sound error
  settle := settle

theorem reads {f : Value → Value} (hf : Value.Layout f) (e : Envelope) (sound : wire.Sound e) :
    Reads read (f e.encode) e.settle := by
  obtain ⟨data, errors⟩ := e
  obtain ⟨hdata, herrors⟩ := sound
  have hreported (es : List ReportedError) (hes : errors = some es) :
      Reads (Json.readOptional (Json.readList ReportedError.read))
        (f (.array (es.map ReportedError.encode))) (some (es.map ReportedError.settle)) := by
    have hlist := Reads.list fun error herror =>
      ReportedError.reads hf error (herrors es hes error herror)
    rw [hf.array, List.map_map]
    exact hlist.optional (by simp)
  have hgiven (v : Value) (hv : data = some v) :
      Reads (Json.readOptional readValue) (f v) v.present :=
    hf.reads (hdata v hv) (.payload (hdata v hv))
  cases data with
  | none =>
    cases errors with
    | none =>
      exact hf.record (by simp [fields, Json.Field.of_apart]) (by decide) (by simp)
        (.absent rfl (.absent rfl .done)) rfl
    | some es =>
      exact hf.record (by simp [fields, Json.Field.of_apart]) (by decide) (by simp)
        (.absent rfl (.found rfl (hreported es rfl) .done)) rfl
  | some v =>
    cases errors with
    | none =>
      exact hf.record (by simp [fields, Json.Field.of_apart]) (by decide) (by simp)
        (.found rfl (hgiven v rfl) (.absent rfl .done)) rfl
    | some es =>
      exact hf.record (by simp [fields, Json.Field.of_apart]) (by decide) (by simp)
        (.found rfl (hgiven v rfl) (.found rfl (hreported es rfl) .done)) rfl

/-- A draft whose data and errors, if they were read, are in order and fit below an origin. -/
structure Draft.Fits (origin : Origin) (d : Draft) : Prop where
  data : ∀ v, d.data = some (some v) →
    v.present = some v ∧ v.IsOrdered ∧ origin.Allows (v.depth + 1)
  errors : ∀ es, d.errors = some (some es) → ∀ error ∈ es, ReportedError.wire.Sound error ∧
    error.settle = error ∧ origin.Allows (error.encode.depth + 2)

theorem fields_keep {origin inner : Origin} (room : origin.Allows 5)
    (enter : origin.enter = .ok inner) :
    ∀ field ∈ fields, field.KeepsAt inner (Draft.Fits origin) := by
  intro field hfield
  simp only [fields, List.mem_cons, List.not_mem_nil, or_false] at hfield
  rcases hfield with rfl | rfl
  · refine Json.Field.of_keepsAt fun node payload draft hread hdraft =>
      ⟨fun v hv => ?_, hdraft.errors⟩
    cases hv
    obtain ⟨hpresent, hordered, hdepth⟩ := Json.of_readPayload hread
    exact ⟨hpresent, hordered, (Origin.allows_of_enter enter).mpr hdepth⟩
  · refine Json.Field.of_keepsAt fun node errors draft hread hdraft =>
      ⟨hdraft.data, fun es hes error herror => ?_⟩
    cases hes
    obtain ⟨below, hbelow, hes⟩ := Json.of_readList (Json.of_readOptional hread).2
    obtain ⟨node, herror⟩ := hes error herror
    have hroom : below.Allows 3 :=
      (Origin.allows_of_enter hbelow).mp ((Origin.allows_of_enter enter).mp room)
    obtain ⟨hsound, hsettled, hdepth⟩ := ReportedError.received hroom herror
    exact ⟨hsound, hsettled,
      (Origin.allows_of_enter enter).mpr ((Origin.allows_of_enter hbelow).mpr hdepth)⟩

theorem settle_eq {e : Envelope} (data : ∀ v, e.data = some v → v.present = some v)
    (errors : ∀ es, e.errors = some es → ∀ error ∈ es, error.settle = error) : e.settle = e := by
  obtain ⟨given, reported⟩ := e
  have hgiven : given.bind Value.present = given := by
    cases given with
    | none => rfl
    | some v => exact data v rfl
  have hreported : reported.map (fun es => es.map ReportedError.settle) = reported := by
    cases reported with
    | none => rfl
    | some es => rw [Option.map_some, List.map_congr_left (errors es rfl), List.map_id']
  exact congr (congrArg Envelope.mk hgiven) hreported

theorem allows_encode {origin : Origin} {e : Envelope} (room : origin.Allows 5)
    (data : ∀ v, e.data = some v → origin.Allows (v.depth + 1))
    (errors : ∀ es, e.errors = some es → ∀ error ∈ es, origin.Allows (error.encode.depth + 2)) :
    origin.Allows e.encode.depth := by
  obtain ⟨inner, henter, hinner⟩ := room.enter
  obtain ⟨below, hbelow, -⟩ := hinner.enter
  refine (Origin.allows_of_enter henter).mpr (allows_depthOfFields_iff.mpr fun field hfield => ?_)
  simp only [List.mem_append, Option.mem_toList, Option.map_eq_some_iff] at hfield
  rcases hfield with ⟨v, hv, rfl⟩ | ⟨es, hes, rfl⟩
  · exact (Origin.allows_of_enter henter).mp (data v hv)
  · refine (Origin.allows_of_enter hbelow).mpr (allows_depthOfItems_iff.mpr fun v hv => ?_)
    obtain ⟨error, herror, rfl⟩ := List.mem_map.mp hv
    exact (Origin.allows_of_enter hbelow).mp
      ((Origin.allows_of_enter henter).mp (errors es hes error herror))

theorem received {origin : Origin} {node : Node} {e : Envelope} (room : origin.Allows 5)
    (h : read origin node = .ok e) : wire.Received origin e := by
  have hstart : Draft.Fits origin {} := ⟨fun v hv => (nomatch hv), fun es hes => nomatch hes⟩
  obtain ⟨⟨data, errors⟩, hdraft, hfinish⟩ :=
    Json.readRecord_keepsBelow (fun _ enter => fields_keep room enter) hstart h
  cases hfinish
  have hdata (v : Value) (hv : data.join = some v) := hdraft.data v (Option.join_eq_some_iff.mp hv)
  have herrors (es : List ReportedError) (hes : errors.join = some es) :=
    hdraft.errors es (Option.join_eq_some_iff.mp hes)
  exact
    { sound := ⟨fun v hv => (hdata v hv).2.1,
        fun es hes error herror => (herrors es hes error herror).1⟩
      settled := settle_eq (fun v hv => (hdata v hv).1)
        fun es hes error herror => (herrors es hes error herror).2.1
      depth := allows_encode room (fun v hv => (hdata v hv).2.2)
        fun es hes error herror => (herrors es hes error herror).2.2 }

end Envelope

end GraphQL

open GraphQL (Envelope ReportedError ErrorLocation PathSegment)

/-- Whatever form a value was read from, what is written of it gives the same value again, and so it
is for every value in memory, of which an explicit null counts as absent where a payload stands. A
path segment is read from its own encoding alone. -/
theorem wire_types_survive :
    Envelope.wire.Survives ∧ ReportedError.wire.Survives ∧ ErrorLocation.wire.Survives ∧
      PathSegment.wire.Survives ∧ AccessGrant.wire.Survives ∧ TokenPair.wire.Survives ∧
      CredentialKeys.wire.Survives ∧ StoredEntry.wire.Survives ∧
      ∀ origin node (s : PathSegment),
        PathSegment.read origin node = .ok s ↔ readValue origin node = .ok s.encode := by
  refine ⟨?_, ?_, ?_, ?_, ?_, ?_, ?_, ?_, fun _ _ _ => PathSegment.read_eq_ok_iff⟩
  · exact Wire.survives Envelope.reads Envelope.received
  · exact Wire.survives ReportedError.reads fun room =>
      ReportedError.received (room.mono (by decide))
  · exact Wire.survives_flat (fun _ => rfl) ErrorLocation.depth_encode_le
      (fun hf l _ => ErrorLocation.reads hf l) fun _ => trivial
  · exact Wire.survives_flat (fun _ => rfl) PathSegment.depth_encode_le
      (fun hf s _ => PathSegment.reads hf s) fun _ => trivial
  · exact Wire.survives_flat (fun _ => rfl) (fun _ => Nat.le_refl 1)
      (fun hf g _ => AccessGrant.reads hf g) fun _ => trivial
  · exact Wire.survives_flat (fun _ => rfl) (fun _ => Nat.le_refl 1)
      (fun hf p _ => TokenPair.reads hf p) fun _ => trivial
  · exact Wire.survives_flat (fun _ => rfl) (fun _ => Nat.le_refl 1)
      (fun hf k _ => CredentialKeys.reads hf k) fun _ => trivial
  · exact Wire.survives_flat (fun _ => rfl) StoredEntry.depth_encode_le
      (fun hf _ he => StoredEntry.reads hf he) StoredEntry.read_isRegular

/-- An answer as an array, with an error that is an array and one that leaves fields out, names one
that is unknown and has null for its payload. -/
def listedAnswer : Value :=
  .array [.object [("b", .whole (.ofUInt32 1)), ("a", .null)],
    .array [
      .array [.string "boom", .array [.array [.whole (.ofUInt32 1), .whole (.ofUInt32 2)]],
        .array [.string "0", .whole (.ofUInt32 3)]],
      .object [("note", .array [.bool true]), ("extensions", .null), ("message", .string "m")]]]

def listedEnvelope : Envelope :=
  ⟨some (.object [("a", .null), ("b", .whole (.ofUInt32 1))]),
    some [⟨"boom", [⟨1, 2⟩], [.field "0", .index 3], none⟩, .ofMessage "m"]⟩

/-- The theorem where the text that is written is not the one that was read. -/
theorem wire_types_survive_of_listed :
    listedAnswer.text ≠ listedEnvelope.encode.text ∧
      readText Envelope.read (listedAnswer.text.toList.map some) = .ok listedEnvelope ∧
      readMemory Envelope.read listedEnvelope.encode.sorted = .ok listedEnvelope ∧
      readText Envelope.read (listedEnvelope.encode.text.toList.map some) = .ok listedEnvelope := by
  have hlisted : listedAnswer.IsExact := by
    simp [listedAnswer, Value.IsExact, Value.AreExact, Value.AreExactFields, Value.whole]
  have hread : readText Envelope.read (listedAnswer.text.toList.map some) = .ok listedEnvelope := by
    rw [readText_of_exact Envelope.read listedAnswer hlisted]
    rfl
  have hwritten : listedEnvelope.encode.IsExact := by
    simp [listedEnvelope, Envelope.encode, ReportedError.encode, ReportedError.ofMessage,
      ErrorLocation.encode, PathSegment.encode, Value.IsExact, Value.AreExact,
      Value.AreExactFields, Value.whole]
  obtain ⟨hmemory, htext⟩ := wire_types_survive.1.textAgain _ _ hread
  exact ⟨by decide +kernel, hread, hmemory, htext hwritten⟩

end BearerSession
