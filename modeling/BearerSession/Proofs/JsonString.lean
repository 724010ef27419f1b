import BearerSession.Json.Printer
import BearerSession.Json.Token

namespace BearerSession.Json

theorem tokensAfter_append (cs gs : List Glyph) :
    tokensAfter cs.length (cs ++ gs) = tokensAfter 0 gs := by
  induction cs with
  | nil => rfl
  | cons c cs ih => exact ih

theorem quad?_hexDigit : ∀ n < 32,
    quad? (some '0') (some '0') (some (hexDigit (n / 16))) (some (hexDigit (n % 16))) = some n := by
  decide

section Strings

variable {c e : Char} {read : List Char} {gs : List Glyph} {n : Nat}

theorem keepString_letter (he : escaped? (some e) = some c) :
    keepString true read (some '\\' :: some e :: gs) = keepString true (c :: read) gs := by
  have hu : e ≠ 'u' := by
    rintro rfl
    cases he
  rw [keepString.eq_def]
  simp [he, hu]

theorem keepString_code {a b c d : Glyph} (hn : quad? a b c d = some n) (hlow : n < 0xD800) :
    keepString true read (some '\\' :: some 'u' :: a :: b :: c :: d :: gs) =
      keepString true (Char.ofNat n :: read) gs := by
  have ht : isTrailing n = false := by
    simp [isTrailing]
    omega
  have hl : isLeading n = false := by
    simp [isLeading]
    omega
  rw [keepString.eq_def]
  simp [hn, ht, hl]

theorem keepString_plain (hquote : c ≠ '"') (hslash : c ≠ '\\') (hcontrol : ¬ c.toNat < 0x20) :
    keepString true read (some c :: gs) = keepString true (c :: read) gs := by
  rw [keepString.eq_def]
  simp [hquote, hslash, isControl, hcontrol]

theorem skipString_letter (he : escaped? (some e) = some c) :
    skipString n (some '\\' :: some e :: gs) = skipString (n + 2) gs := by
  have hu : e ≠ 'u' := by
    rintro rfl
    cases he
  rw [skipString.eq_def]
  simp [he, hu]

theorem skipString_code {a b c d : Glyph} {code : Nat} (hcode : quad? a b c d = some code) :
    skipString n (some '\\' :: some 'u' :: a :: b :: c :: d :: gs) = skipString (n + 6) gs := by
  rw [skipString.eq_def]
  simp [hcode]

theorem skipString_plain (hquote : c ≠ '"') (hslash : c ≠ '\\') (hcontrol : ¬ c.toNat < 0x20) :
    skipString n (some c :: gs) = skipString (n + 1) gs := by
  rw [skipString.eq_def]
  simp [hquote, hslash, isControl, hcontrol]

/-- A character is kept and skipped as a whole, however it was escaped. -/
theorem escape_spec (c : Char) (n : Nat) (read : List Char) (gs : List Glyph) :
    keepString true read ((escape c).map some ++ gs) = keepString true (c :: read) gs ∧
      skipString n ((escape c).map some ++ gs) = skipString (n + (escape c).length) gs := by
  have letter : ∀ e : Char, escaped? (some e) = some c →
      keepString true read (['\\', e].map some ++ gs) = keepString true (c :: read) gs ∧
        skipString n (['\\', e].map some ++ gs) = skipString (n + 2) gs :=
    fun e he => ⟨keepString_letter he, skipString_letter he⟩
  unfold escape
  split
  next hc => exact letter '"' (by rw [hc]; rfl)
  split
  next hc => exact letter '\\' (by rw [hc]; rfl)
  split
  next hc => exact letter 'b' (by rw [← Char.ofNat_toNat c, hc]; rfl)
  split
  next hc => exact letter 'f' (by rw [← Char.ofNat_toNat c, hc]; rfl)
  split
  next hc => exact letter 'n' (by rw [hc]; rfl)
  split
  next hc => exact letter 'r' (by rw [hc]; rfl)
  split
  next hc => exact letter 't' (by rw [hc]; rfl)
  split
  next hc =>
    have hquad := quad?_hexDigit c.toNat hc
    refine ⟨(keepString_code hquad (by omega)).trans ?_, skipString_code hquad⟩
    rw [Char.ofNat_toNat]
    rfl
  next hquote hslash _ _ _ _ _ hcontrol =>
    exact ⟨keepString_plain hquote hslash hcontrol, skipString_plain hquote hslash hcontrol⟩

theorem keepString_escapes (cs read : List Char) (gs : List Glyph) :
    keepString true read ((cs.flatMap escape).map some ++ some '"' :: gs) =
      .ok (read.reverse ++ cs) := by
  induction cs generalizing read with
  | nil =>
    rw [List.flatMap_nil, List.map_nil, List.nil_append, keepString.eq_def]
    simp
  | cons c cs ih =>
    rw [List.flatMap_cons, List.map_append, List.append_assoc, (escape_spec c 0 read _).1, ih,
      List.reverse_cons, List.append_assoc]
    rfl

theorem skipString_escapes (cs : List Char) (n : Nat) (gs : List Glyph) :
    skipString n ((cs.flatMap escape).map some ++ some '"' :: gs) =
      .ok (n + (cs.flatMap escape).length + 1) := by
  induction cs generalizing n with
  | nil =>
    rw [List.flatMap_nil, List.map_nil, List.nil_append, skipString.eq_def]
    simp
  | cons c cs ih =>
    rw [List.flatMap_cons, List.map_append, List.append_assoc, (escape_spec c n [] _).2, ih,
      List.length_append, Nat.add_assoc n]

/-- A string in quotes is one token. -/
theorem tokensAfter_quote (s : String) (gs : List Glyph) :
    tokensAfter 0 ((quote s).map some ++ gs) = .string (.ok s) (.ok ()) :: tokensAfter 0 gs := by
  have htoken : stringToken ((s.toList.flatMap escape).map some ++ some '"' :: gs) =
      (.string (.ok s) (.ok ()), (s.toList.flatMap escape).length + 1) := by
    unfold stringToken
    rw [keepString_escapes, skipString_escapes]
    simp [Except.map, String.ofList_toList]
  have hsplit : (quote s).map some ++ gs =
      some '"' :: ((s.toList.flatMap escape).map some ++ some '"' :: gs) := by
    simp [quote]
  have hrest := tokensAfter_append ((s.toList.flatMap escape).map some ++ [some '"']) gs
  rw [List.length_append, List.length_map, List.append_assoc] at hrest
  have htok : token (some '"') ((s.toList.flatMap escape).map some ++ some '"' :: gs) =
      stringToken ((s.toList.flatMap escape).map some ++ some '"' :: gs) := rfl
  rw [hsplit, tokensAfter]
  rw [htok, htoken]
  exact congrArg (Token.string (.ok s) (.ok ()) :: ·) hrest

end Strings

end BearerSession.Json
