import Marketplace.Json.Number
import Marketplace.Proofs.Json.Reader
import Marketplace.Proofs.Text.Integer

/-!
# Reading what was written: numbers

A number ends where its text cannot go on, so the law has to know what follows it. `Stops rest`
says that a value may end in front of `rest`: the text is over, or a comma or a closing bracket is
next. `readNumber_integer` is the law: an integer between `-2 ^ 63` and `2 ^ 64` is read back
exactly, as no digit of it is dropped.
-/

namespace Marketplace.Json

/-- A value may end in front of this text. -/
def Stops (rest : List Char) : Prop := ∀ c ∈ rest.head?, c = ',' ∨ c = '}' ∨ c = ']'

variable {rest : List Char} {ds : List Char} {n : Nat}

theorem stops_nil : Stops [] := by simp [Stops]

theorem stops_comma (rest : List Char) : Stops (',' :: rest) := by simp [Stops]

theorem stops_brace (rest : List Char) : Stops ('}' :: rest) := by simp [Stops]

/-- Neither a digit nor a point nor an exponent is next. -/
theorem Stops.head?_eq (h : Stops rest) {p : Char → Bool}
    (hp : p ',' = false ∧ p '}' = false ∧ p ']' = false) : rest.head?.all (!p ·) := by
  cases hr : rest.head? with
  | none => rfl
  | some c =>
    obtain ⟨hcomma, hbrace, hbracket⟩ := hp
    rcases h c hr with rfl | rfl | rfl <;> simp_all

theorem skipIf_of_head? {p : Char → Bool} (h : rest.head?.all (!p ·)) :
    skipIf p rest = .ok (false, rest) := by
  unfold skipIf
  rw [bind_of_ok (peek_apply rest)]
  cases hr : rest.head? with
  | none => rfl
  | some c =>
    have hc : p c = false := by simpa [hr] using h
    simp only [hc]
    rfl

theorem takeDigits_append (hds : ∀ c ∈ ds, c.isDigit) (h : rest.head?.all (!·.isDigit)) :
    takeDigits (ds ++ rest) = .ok (ds, rest) := by
  simp [takeDigits, Text.takeWhile_append hds h]

theorem readDigits_append (hne : ds ≠ []) (hds : ∀ c ∈ ds, c.isDigit)
    (h : rest.head?.all (!·.isDigit)) : readDigits (ds ++ rest) = .ok (ds, rest) := by
  unfold readDigits
  rw [bind_of_ok (takeDigits_append hds h), bind_of_ok (peek_apply rest)]
  cases ds with
  | nil => exact (hne rfl).elim
  | cons c ds => rfl

/-- The digits of a number have no zero in front, unless they are `0`. -/
theorem readWhole_natural (n : Nat) (h : rest.head?.all (!·.isDigit)) :
    readWhole (Text.natural n ++ rest) = .ok (Text.natural n, rest) := by
  have hlead : ¬ ((Text.natural n).length > 1 ∧ (Text.natural n).head? = some '0') := by
    rintro ⟨hlength, hhead⟩
    rcases Nat.eq_zero_or_pos n with rfl | hpos
    · exact absurd hlength (by decide)
    · exact Text.head?_natural_ne_zero hpos hhead
  unfold readWhole
  have hdigits := readDigits_append (Text.natural_ne_nil n) (fun _ => Text.isDigit_of_mem_natural) h
  rw [bind_of_ok hdigits, if_neg hlead]
  rfl

theorem le_ofDigitChars (ds : List Char) (init : Nat) : init ≤ Nat.ofDigitChars 10 ds init := by
  induction ds generalizing init with
  | nil => exact Nat.le_refl _
  | cons c ds ih =>
    rw [Nat.ofDigitChars_cons]
    exact Nat.le_trans (by omega) (ih _)

/-- No digit is dropped from a number that fits into 64 bits. -/
theorem foldl_pushWhole (ds : List Char) {v : Nat} (h : Nat.ofDigitChars 10 ds v < UInt64.size) :
    ds.foldl Significand.pushWhole ⟨v, 0, false⟩ = ⟨Nat.ofDigitChars 10 ds v, 0, false⟩ := by
  induction ds generalizing v with
  | nil => rfl
  | cons c ds ih =>
    rw [Nat.ofDigitChars_cons, Nat.mul_comm 10 v] at h
    have hfits := Nat.lt_of_le_of_lt (le_ofDigitChars ds _) h
    rw [List.foldl_cons, Nat.ofDigitChars_cons, Nat.mul_comm 10 v, ← ih h]
    congr 1
    simpa [Significand.pushWhole, Significand.fits] using hfits

theorem readUnsigned_natural (h : n < UInt64.size) (hrest : Stops rest) :
    readUnsigned (Text.natural n ++ rest) = .ok ((⟨n, 0, false⟩, 0, true), rest) := by
  have hvalue : Nat.ofDigitChars 10 (Text.natural n) 0 = n := Text.digitsValue_natural n
  have hfold := foldl_pushWhole (Text.natural n) (v := 0) (hvalue.symm ▸ h)
  rw [hvalue] at hfold
  have hdigit := hrest.head?_eq (p := Char.isDigit) (by decide)
  have hpoint := hrest.head?_eq (p := fun c => c = '.') (by decide)
  have hmark := hrest.head?_eq (p := isExponentMark) (by decide)
  unfold readUnsigned
  rw [bind_of_ok (readWhole_natural n hdigit), hfold]
  dsimp only
  rw [bind_of_ok (skipIf_of_head? hpoint)]
  simp only [Bool.false_eq_true, if_false]
  rw [bind_of_ok (pure_apply _ _), bind_of_ok (skipIf_of_head? hmark)]
  simp only [Bool.false_eq_true, if_false]
  rw [bind_of_ok (pure_apply _ _)]
  rfl

/-- The first character of a number. -/
theorem natural_cons (n : Nat) : ∃ c ds, Text.natural n = c :: ds ∧ c.isDigit := by
  obtain ⟨c, ds, h⟩ := List.exists_cons_of_ne_nil (Text.natural_ne_nil n)
  exact ⟨c, ds, h, Text.isDigit_of_mem_natural (h ▸ List.mem_cons_self)⟩

theorem skipIf_minus_natural (n : Nat) (rest : List Char) :
    skipIf (· = '-') (Text.natural n ++ rest) = .ok (false, Text.natural n ++ rest) := by
  obtain ⟨c, ds, hcons, hdigit⟩ := natural_cons n
  have hne : c ≠ '-' := Text.ne_of_isDigit hdigit rfl
  refine skipIf_of_head? ?_
  simp [hcons, hne]

/-- The text of a number is ASCII. -/
theorem byteChars_integer (i : Int) : Text.byteChars (Text.integer i) = Text.integer i := by
  have hnatural : ∀ n, Text.byteChars (Text.natural n) = Text.natural n := by
    intro n
    refine Text.byteChars_of_ascii fun c hc => ?_
    have hdigit := Text.isDigit_of_mem_natural hc
    simp only [Char.isDigit, ge_iff_le, Bool.and_eq_true, decide_eq_true_eq] at hdigit
    exact Nat.lt_of_le_of_lt (UInt32.le_iff_toNat_le.mp hdigit.2) (by decide)
  cases i with
  | ofNat n => exact hnatural n
  | negSucc n =>
    rw [Text.integer, Text.byteChars_cons (by decide), hnatural]

/-- **Integers.** An integer that 64 bits can hold, signed or not, is read back. -/
theorem readNumber_integer {i : Int} (hmin : Int64.minValue.toInt ≤ i)
    (hmax : i < (UInt64.size : Int)) (hrest : Stops rest) :
    readNumber (Text.integer i ++ rest) = .ok (.integer i, rest) := by
  have hsize : UInt64.size = 18446744073709551616 := rfl
  have hvalue : Int64.minValue.toInt = -9223372036854775808 := by decide
  unfold readNumber
  cases i with
  | ofNat n =>
    have hn : n < UInt64.size := Int.ofNat_lt.mp hmax
    rw [Text.integer, bind_of_ok (skipIf_minus_natural n rest),
      bind_of_ok (readUnsigned_natural hn hrest)]
    dsimp only
    rw [if_pos ⟨rfl, Bool.false_ne_true, hmin, by simp⟩]
    rfl
  | negSucc n =>
    have hn : n + 1 < UInt64.size := by omega
    have hsign : skipIf (· = '-') ('-' :: (Text.natural (n + 1) ++ rest))
        = .ok (true, Text.natural (n + 1) ++ rest) := rfl
    rw [Text.integer, List.cons_append, bind_of_ok hsign,
      bind_of_ok (readUnsigned_natural hn hrest)]
    dsimp only
    rw [if_pos ⟨rfl, Bool.false_ne_true, hmin, by simp; omega⟩]
    rfl

end Marketplace.Json
