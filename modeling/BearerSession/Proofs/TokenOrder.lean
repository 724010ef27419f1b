import BearerSession.Proofs.CookieLine

namespace BearerSession

/-- The bytes of a text. -/
def bytes (text : String) : List UInt8 := text.toUTF8.data.toList

/-- The byte of a character of ASCII. -/
def byte (c : Char) : UInt8 := UInt8.ofNat c.toNat

variable {cs ds : List Char} {a b : String}

theorem utf8EncodeChar_of_ascii {c : Char} (h : c.toNat < 128) :
    String.utf8EncodeChar c = [byte c] := by
  have hle : c.val.toNat ≤ 0x7F := Nat.le_of_lt_succ h
  unfold String.utf8EncodeChar
  simp only [if_pos hle]
  rfl

theorem flatMap_utf8EncodeChar (h : ∀ c ∈ cs, c.toNat < 128) :
    cs.flatMap String.utf8EncodeChar = cs.map byte := by
  induction cs with
  | nil => rfl
  | cons c cs ih =>
    have hc := utf8EncodeChar_of_ascii (h c List.mem_cons_self)
    have hrest := ih fun d hd => h d (List.mem_cons_of_mem c hd)
    rw [List.flatMap_cons, hc, hrest]
    rfl

theorem bytes_of_ascii (h : ∀ c ∈ a.toList, c.toNat < 128) : bytes a = a.toList.map byte := by
  show a.toByteArray.data.toList = _
  rw [← String.utf8Encode_toList, List.utf8Encode, List.data_toByteArray,
    flatMap_utf8EncodeChar h]

/-- Each character of ASCII is below another if its byte is, so the first difference decides the
order of both. -/
theorem map_byte_lt (hcs : ∀ c ∈ cs, c.toNat < 128) (hds : ∀ d ∈ ds, d.toNat < 128)
    (h : cs < ds) : cs.map byte < ds.map byte := by
  induction cs generalizing ds with
  | nil =>
    cases ds with
    | nil => exact absurd h (List.not_lt_nil [])
    | cons d ds => exact List.nil_lt_cons _ _
  | cons c cs ih =>
    cases ds with
    | nil => exact absurd h (List.not_lt_nil (c :: cs))
    | cons d ds =>
      rw [List.map_cons, List.map_cons, List.cons_lt_cons_iff]
      rcases List.cons_lt_cons_iff.mp h with hhead | ⟨rfl, htail⟩
      · left
        have hc := hcs c List.mem_cons_self
        have hd := hds d List.mem_cons_self
        have hlt : c.toNat < d.toNat := hhead
        rw [UInt8.lt_iff_toNat_lt, byte, byte, UInt8.toNat_ofNat', UInt8.toNat_ofNat']
        omega
      · right
        have hcs' : ∀ e ∈ cs, e.toNat < 128 := fun e he => hcs e (List.mem_cons_of_mem c he)
        have hds' : ∀ e ∈ ds, e.toNat < 128 := fun e he => hds e (List.mem_cons_of_mem c he)
        exact ⟨rfl, ih hcs' hds' htail⟩

theorem ascii_of_token (h : isToken a = true) : ∀ c ∈ a.toList, c.toNat < 128 := by
  intro c hc
  have hhigh := (isVisible_iff.mp (of_mem_token h hc).1).2
  omega

theorem bytes_lt_of_token (ha : isToken a = true) (hb : isToken b = true) (h : a < b) :
    bytes a < bytes b := by
  have hascii := ascii_of_token ha
  have hascii' := ascii_of_token hb
  rw [bytes_of_ascii hascii, bytes_of_ascii hascii']
  exact map_byte_lt hascii hascii' (String.lt_iff.mp h)

end BearerSession
