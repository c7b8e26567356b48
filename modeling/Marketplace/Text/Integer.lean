/-!
# Integers in text, and the widths that store them

* `digitsValue`, `natural?`, `unsigned?`, `integer?`: decimal digits, with an optional plus sign in
  `unsigned?` and an optional sign in `integer?`; `signed?` puts a sign in front of any reader, and
  `hexValue?` reads a hexadecimal digit.
* `natural`, `integer`, `padded`: the digits of a number, `padded` with leading zeros.
* `int16?` … `uint64?`: the fixed width that holds an integer, when it fits.
-/

namespace Marketplace

namespace Text

/-- The number that a list of decimal digits denotes. -/
def digitsValue (digits : List Char) : Nat := Nat.ofDigitChars 10 digits 0

/-- A nonempty run of ASCII digits, leading zeros allowed. -/
def natural? (s : List Char) : Option Nat :=
  if s ≠ [] ∧ s.all Char.isDigit then some (digitsValue s) else none

/-- A natural number behind an optional plus sign. -/
def unsigned? : List Char → Option Nat
  | '+' :: s => natural? s
  | s => natural? s

/-- What `read` reads, behind an optional sign. -/
def signed? (read : List Char → Option Nat) : List Char → Option Int
  | '-' :: s => (read s).map fun n => -(n : Int)
  | '+' :: s => (read s).map fun n => (n : Int)
  | s => (read s).map fun n => (n : Int)

/-- A natural number behind an optional sign. -/
def integer? : List Char → Option Int := signed? natural?

/-- The value of a hexadecimal digit, in either case. -/
def hexValue? (c : Char) : Option Nat :=
  if c.isDigit then some (c.toNat - '0'.toNat)
  else if 'a' ≤ c ∧ c ≤ 'f' then some (c.toNat - 'a'.toNat + 10)
  else if 'A' ≤ c ∧ c ≤ 'F' then some (c.toNat - 'A'.toNat + 10)
  else none

/-- The decimal digits of a number. -/
def natural (n : Nat) : List Char := Nat.toDigits 10 n

/-- An integer, with a sign in front of a negative one only. -/
def integer : Int → List Char
  | .ofNat n => natural n
  | .negSucc n => '-' :: natural (n + 1)

/-- The decimal digits of a number, with zeros in front up to `width` digits. -/
def padded (width n : Nat) : List Char := (natural n).leftpad width '0'

@[simp] theorem digitsValue_natural (n : Nat) : digitsValue (natural n) = n :=
  Nat.ofDigitChars_toDigits (by decide) (by decide)

end Text

/-! ## Fixed widths -/

/-- The signed 16-bit number with this value. -/
def int16? (n : Int) : Option Int16 :=
  if Int16.minValue.toInt ≤ n ∧ n ≤ Int16.maxValue.toInt then some (Int16.ofInt n) else none

/-- The signed 32-bit number with this value. -/
def int32? (n : Int) : Option Int32 :=
  if Int32.minValue.toInt ≤ n ∧ n ≤ Int32.maxValue.toInt then some (Int32.ofInt n) else none

/-- The signed 64-bit number with this value. -/
def int64? (n : Int) : Option Int64 :=
  if Int64.minValue.toInt ≤ n ∧ n ≤ Int64.maxValue.toInt then some (Int64.ofInt n) else none

/-- The unsigned 64-bit number with this value. -/
def uint64? (n : Int) : Option UInt64 :=
  if 0 ≤ n ∧ n.toNat < UInt64.size then some (UInt64.ofNat n.toNat) else none

@[simp] theorem int16?_toInt (n : Int16) : int16? n.toInt = some n := by
  rw [int16?, if_pos ⟨Int16.minValue_le_toInt n, Int16.toInt_le n⟩, Int16.ofInt_toInt]

@[simp] theorem int32?_toInt (n : Int32) : int32? n.toInt = some n := by
  rw [int32?, if_pos ⟨Int32.minValue_le_toInt n, Int32.toInt_le n⟩, Int32.ofInt_toInt]

@[simp] theorem int64?_toInt (n : Int64) : int64? n.toInt = some n := by
  rw [int64?, if_pos ⟨Int64.minValue_le_toInt n, Int64.toInt_le n⟩, Int64.ofInt_toInt]

@[simp] theorem uint64?_toNat (n : UInt64) : uint64? n.toNat = some n := by
  have h : 0 ≤ (n.toNat : Int) ∧ (n.toNat : Int).toNat < UInt64.size :=
    ⟨Int.natCast_nonneg _, UInt64.toNat_lt_size n⟩
  rw [uint64?, if_pos h, Int.toNat_natCast, UInt64.ofNat_toNat]

end Marketplace
