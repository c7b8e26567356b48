import Marketplace.Json.Text
import Marketplace.Proofs.Text.Bytes

/-!
# Reading what was written: tokens and strings

A reader that takes a value off the front of a text is followed step by step: `bind_of_ok` goes on
with the rest of the text, and each token has a lemma that says what it takes. `readString_quoted`
is the law of strings: whatever its characters, a written string is read back from its bytes, from
behind its opening quote.
-/

namespace Marketplace.Json

open Text (byteChars)

variable {α β : Type} {r : Reader α} {f : α → Reader β} {g : α → β} {a : α} {c : Char}
  {s t rest : List Char}

/-! ## Steps -/

theorem bind_of_ok (h : r s = .ok (a, t)) : (r >>= f) s = f a t := by
  simp only [bind, StateT.bind, h]
  rfl

theorem map_of_ok (h : r s = .ok (a, t)) : (g <$> r) s = .ok (g a, t) := by
  simp only [Functor.map, StateT.map, bind, Except.bind, h]
  rfl

@[simp] theorem pure_apply (a : α) (s : List Char) : (pure a : Reader α) s = .ok (a, s) := rfl

/-! ## Tokens -/

@[simp] theorem readChar_cons (c : Char) (s : List Char) : readChar (c :: s) = .ok (c, s) := rfl

@[simp] theorem skipChar_cons (c : Char) (s : List Char) : skipChar (c :: s) = .ok ((), s) := rfl

@[simp] theorem peek_apply (s : List Char) : peek s = .ok (s.head?, s) := rfl

theorem readSpace_cons (h : isSpace c = false) (s : List Char) :
    readSpace (c :: s) = .ok ((), c :: s) := by
  simp [readSpace, h]

theorem peekValue_cons (h : isSpace c = false) (s : List Char) :
    peekValue (c :: s) = .ok (c, c :: s) := by
  unfold peekValue
  rw [bind_of_ok (readSpace_cons h s), bind_of_ok (peek_apply _)]
  rfl

theorem readMark_cons (h : isSpace c = false) (s : List Char) :
    readMark c (c :: s) = .ok ((), s) := by
  unfold readMark
  rw [bind_of_ok (readSpace_cons h s), bind_of_ok (readChar_cons c s), if_neg (by simp)]
  rfl

/-! ## Strings -/

theorem hexValue?_hexDigit {n : Nat} (h : n < 16) : Text.hexValue? (hexDigit n) = some n := by
  have hall : ∀ n : Fin 16, Text.hexValue? (hexDigit n) = some n.val := by decide
  exact hall ⟨n, h⟩

theorem toNat_hexDigit_lt {n : Nat} (h : n < 16) : (hexDigit n).toNat < 128 := by
  have hall : ∀ n : Fin 16, (hexDigit n).toNat < 128 := by decide
  exact hall ⟨n, h⟩

theorem readHex_cons {a b c d : Char} {i j k l : Nat} (ha : Text.hexValue? a = some i)
    (hb : Text.hexValue? b = some j) (hc : Text.hexValue? c = some k)
    (hd : Text.hexValue? d = some l) (s : List Char) :
    readHex (a :: b :: c :: d :: s) = .ok (((i * 16 + j) * 16 + k) * 16 + l, s) := by
  simp only [readHex, ha, hb, hc, hd]

/-- The escape of a character below U+0020 is read back, behind its `u`. -/
theorem readUnicode_escape (h : c.toNat < 0x20) (s : List Char) :
    readUnicode ('0' :: '0' :: hexDigit (c.toNat / 16) :: hexDigit (c.toNat % 16) :: s)
      = .ok (c, s) := by
  have hzero : Text.hexValue? '0' = some 0 := by decide
  have hhex := readHex_cons hzero hzero (hexValue?_hexDigit (n := c.toNat / 16) (by omega))
    (hexValue?_hexDigit (n := c.toNat % 16) (by omega)) s
  have hvalue : ((0 * 16 + 0) * 16 + c.toNat / 16) * 16 + c.toNat % 16 = c.toNat := by omega
  rw [hvalue] at hhex
  have hlow : isLowSurrogate c.toNat = false := by
    simp only [isLowSurrogate, decide_eq_false_iff_not]
    omega
  have hhigh : isHighSurrogate c.toNat = false := by
    simp only [isHighSurrogate, decide_eq_false_iff_not]
    omega
  unfold readUnicode
  rw [bind_of_ok hhex]
  simp only [hlow, hhigh]
  rw [Char.ofNat_toNat]
  rfl

theorem readChars_escape {fuel : Nat} {u : List Char} (h : readEscape s = .ok (c, t))
    (hread : readChars fuel t = .ok (u, rest)) :
    readChars (fuel + 1) ('\\' :: s) = .ok (byteChars [c] ++ u, rest) := by
  simp only [readChars]
  rw [bind_of_ok (readChar_cons _ _), if_neg (by decide), if_pos rfl, bind_of_ok h,
    bind_of_ok hread]
  rfl

/-- Bytes without a quote, a backslash or a control character stand for themselves. -/
theorem readChars_plain {fuel : Nat} {u : List Char}
    (h : ∀ b ∈ t, b ≠ '"' ∧ b ≠ '\\' ∧ 0x20 ≤ b.toNat) (hread : readChars fuel s = .ok (u, rest)) :
    readChars (fuel + t.length) (t ++ s) = .ok (t ++ u, rest) := by
  induction t with
  | nil => exact hread
  | cons b t ih =>
    obtain ⟨⟨hquote, hslash, hlow⟩, ht⟩ := List.forall_mem_cons.mp h
    rw [List.length_cons, ← Nat.add_assoc, List.cons_append, readChars,
      bind_of_ok (readChar_cons _ _), if_neg hquote, if_neg hslash, if_neg (Nat.not_lt.mpr hlow),
      bind_of_ok (ih ht)]
    rfl

/-- One character of a string is read back, however it is written, in no more steps than its text
has bytes. -/
theorem exists_readChars_escaped (c : Char) : ∃ n ≤ (byteChars (escaped c)).length,
    ∀ {fuel : Nat} {s t rest : List Char}, readChars fuel s = .ok (t, rest) →
      readChars (fuel + n) (byteChars (escaped c) ++ s) = .ok (byteChars [c] ++ t, rest) := by
  unfold escaped
  split
  iterate 7 · exact ⟨1, by decide, fun hread => readChars_escape rfl hread⟩
  rename_i hquote hslash _ _ _ _ _
  split
  · rename_i hlow
    have hhigh := toNat_hexDigit_lt (n := c.toNat / 16) (by omega)
    have hdigit := toNat_hexDigit_lt (n := c.toNat % 16) (by omega)
    refine ⟨1, by simp [hhigh, hdigit], fun hread => ?_⟩
    simp only [Text.byteChars_cons, hhigh, hdigit, Text.byteChars_nil, Char.reduceToNat,
      Nat.reduceLT]
    exact readChars_escape (readUnicode_escape hlow _) hread
  · rename_i hlow
    refine ⟨_, Nat.le_refl _, fun hread => readChars_plain (fun b hb => ?_) hread⟩
    by_cases hascii : c.toNat < 128
    · rw [Text.byteChars_cons hascii, Text.byteChars_nil, List.mem_singleton] at hb
      subst hb
      exact ⟨hquote, hslash, Nat.le_of_not_lt hlow⟩
    · have hbyte := Text.le_of_mem_byteChars_singleton (Nat.le_of_not_lt hascii) b hb
      refine ⟨?_, ?_, by omega⟩ <;>
      · rintro rfl
        exact absurd hbyte (by decide)

theorem readChars_quoted {fuel : Nat} (h : (byteChars (s.flatMap escaped)).length < fuel)
    (rest : List Char) :
    readChars fuel (byteChars (s.flatMap escaped) ++ '"' :: rest) = .ok (byteChars s, rest) := by
  induction s generalizing fuel with
  | nil =>
    obtain ⟨fuel, rfl⟩ := Nat.exists_eq_add_of_lt h
    rfl
  | cons c s ih =>
    obtain ⟨n, hn, hread⟩ := exists_readChars_escaped c
    rw [List.flatMap_cons, Text.byteChars_append, List.length_append] at h
    obtain ⟨fuel, rfl⟩ : ∃ k, fuel = k + n := ⟨fuel - n, by omega⟩
    rw [List.flatMap_cons, Text.byteChars_append, List.append_assoc, hread (ih (by omega)),
      ← Text.byteChars_append, List.singleton_append]

/-- A quoted string in front of more of the text. -/
theorem quoted_append (s rest : List Char) :
    byteChars (quoted s) ++ rest = '"' :: (byteChars (s.flatMap escaped) ++ '"' :: rest) := by
  simp [quoted]

/-- **Strings.** What `quoted` writes is read back from behind the opening quote. -/
theorem readString_quoted (s rest : List Char) :
    readString (byteChars (s.flatMap escaped) ++ '"' :: rest) = .ok (s, rest) := by
  have hfuel : (byteChars (s.flatMap escaped)).length
      < (byteChars (s.flatMap escaped) ++ '"' :: rest).length + 1 := by
    rw [List.length_append]
    omega
  have hread := readChars_quoted hfuel rest
  unfold readString
  rw [bind_of_ok (r := fun s => readChars (s.length + 1) s) hread, Text.ofByteChars?_byteChars]
  rfl

end Marketplace.Json
