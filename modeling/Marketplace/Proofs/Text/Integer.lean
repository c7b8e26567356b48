import Mathlib.Algebra.Order.Ring.Nat
import Marketplace.Text.Integer

/-!
# The digits of a number

What a reader has to know of the text of a number: it consists of digits, it does not begin with a
zero (`head?_natural_ne_zero`), and it reads back as the number, also behind leading zeros
(`digitsValue_padded`) and in front of zeros that stand for a power of ten
(`natural_mul_ten_pow`).
-/

namespace Marketplace.Text

variable {n width : Nat} {s : List Char}

/-- A digit is no other character. -/
theorem ne_of_isDigit {c d : Char} (h : c.isDigit) (hd : d.isDigit = false) : c ≠ d := by
  rintro rfl
  rw [h] at hd
  cases hd

/-! ## Without leading zeros -/

theorem natural_ne_nil (n : Nat) : natural n ≠ [] := Nat.toDigits_ne_nil

theorem isDigit_of_mem_natural {c : Char} (h : c ∈ natural n) : c.isDigit :=
  Nat.isDigit_of_mem_toDigits (by decide) (by decide) h

/-- The digits of a number are those of its tenth, and its last one. -/
theorem natural_of_ten_le (h : 10 ≤ n) : natural n = natural (n / 10) ++ [Nat.digitChar (n % 10)] :=
  Nat.toDigits_of_base_le (by decide) h

theorem natural_of_lt_ten (h : n < 10) : natural n = [Nat.digitChar n] :=
  Nat.toDigits_of_lt_base h

theorem head?_natural_ne_zero (h : 0 < n) : (natural n).head? ≠ some '0' := by
  induction n using Nat.strongRecOn with
  | _ n ih =>
    by_cases hlt : n < 10
    · rw [natural_of_lt_ten hlt]
      have : Nat.digitChar n ≠ '0' := by
        intro he
        have := Nat.toNat_digitChar_of_lt_ten hlt
        rw [he] at this
        have hzero : '0'.toNat = 48 := rfl
        omega
      simpa using this
    · obtain ⟨c, ds, hcons⟩ := List.exists_cons_of_ne_nil (natural_ne_nil (n / 10))
      have := ih (n / 10) (by omega) (by omega)
      rw [hcons] at this
      rwa [natural_of_ten_le (by omega), hcons, List.cons_append]

theorem natural?_of_digits (hne : s ≠ []) (h : ∀ c ∈ s, c.isDigit) :
    natural? s = some (digitsValue s) :=
  if_pos ⟨hne, List.all_eq_true.mpr h⟩

@[simp] theorem natural?_natural (n : Nat) : natural? (natural n) = some n := by
  rw [natural?_of_digits (natural_ne_nil n) fun _ => isDigit_of_mem_natural, digitsValue_natural]

theorem natural_mul_ten_pow (h : 0 < n) (k : Nat) :
    natural (n * 10 ^ k) = natural n ++ List.replicate k '0' := by
  induction k with
  | zero => simp
  | succ k ih =>
    have hpos : 0 < n * 10 ^ k := Nat.mul_pos h (Nat.pow_pos (by decide))
    have hmul : n * 10 ^ (k + 1) = 10 * (n * 10 ^ k) := by
      rw [Nat.pow_succ, ← Nat.mul_assoc, Nat.mul_comm]
    have hdigits : natural (n * 10 ^ k) ++ natural 0 = natural (10 * (n * 10 ^ k) + 0) :=
      Nat.toDigits_append_toDigits (by decide) hpos (by decide)
    rw [hmul, ← Nat.add_zero (10 * _), ← hdigits, ih, List.append_assoc, List.replicate_succ']
    rfl

/-! ## Runs of characters -/

/-- A run of characters ends where another kind begins. -/
theorem takeWhile_append {p : Char → Bool} {s rest : List Char} (hs : ∀ c ∈ s, p c)
    (h : rest.head?.all (!p ·)) : (s ++ rest).takeWhile p = s := by
  have hrest : rest.takeWhile p = [] := by
    cases rest with
    | nil => rfl
    | cons c rest =>
      have hc : p c = false := by simpa using h
      simp [hc]
  rw [List.takeWhile_append_of_pos hs, hrest, List.append_nil]

/-- What follows a run of characters. -/
theorem dropWhile_append {p : Char → Bool} {s rest : List Char} (hs : ∀ c ∈ s, p c)
    (h : rest.head?.all (!p ·)) : (s ++ rest).dropWhile p = rest := by
  rw [List.dropWhile_append_of_pos hs]
  cases rest with
  | nil => rfl
  | cons c rest =>
    have hc : p c = false := by simpa using h
    simp [hc]

/-! ## With leading zeros -/

theorem padded_eq (width n : Nat) :
    padded width n = List.replicate (width - (natural n).length) '0' ++ natural n := rfl

theorem isDigit_of_mem_padded {c : Char} (h : c ∈ padded width n) : c.isDigit := by
  rw [padded_eq, List.mem_append] at h
  rcases h with h | h
  · rw [List.eq_of_mem_replicate h]
    rfl
  · exact isDigit_of_mem_natural h

theorem padded_ne_nil (width n : Nat) : padded width n ≠ [] := by
  simp [padded_eq, natural_ne_nil]

/-- Leading zeros count for nothing. -/
theorem digitsValue_zeros (k : Nat) (s : List Char) :
    digitsValue (List.replicate k '0' ++ s) = digitsValue s := by
  simp [digitsValue, Nat.ofDigitChars_append]

/-- Zeros behind digits are factors of ten. -/
theorem digitsValue_append_zeros (s : List Char) (k : Nat) :
    digitsValue (s ++ List.replicate k '0') = digitsValue s * 10 ^ k := by
  rw [digitsValue, Nat.ofDigitChars_append, Nat.ofDigitChars_replicate_zero, Nat.mul_comm]
  rfl

@[simp] theorem digitsValue_padded (width n : Nat) : digitsValue (padded width n) = n := by
  rw [padded_eq, digitsValue_zeros, digitsValue_natural]

/-- A number that is small enough is padded to the width. -/
theorem length_padded (hwidth : 0 < width) (h : n < 10 ^ width) :
    (padded width n).length = width := by
  have hle : (natural n).length ≤ width := (Nat.length_toDigits_le_iff (by decide) hwidth).mpr h
  rw [padded_eq, List.length_append, List.length_replicate]
  omega

end Marketplace.Text
