import Marketplace.Decimal

/-!
# Binary floating point

A `Binary64` is a finite nonnegative number of the 64-bit binary format, as `significand * 2 ^
exponent`. Every operation rounds its exact result once, to the nearest number of the format and to
the even one in a tie.

* `Binary64.nearest?` rounds a quotient; `none` is an overflow.
* `Binary64.scaleByTen?` multiplies by a power of ten, which is itself rounded first.
* `Binary64.toDecimal` is the exact value as a decimal.
-/

namespace Marketplace

/-- The number `significand * 2 ^ exponent`. -/
structure Binary64 where
  significand : Nat
  exponent : Int
  deriving DecidableEq, Repr

namespace Binary64

/-- The least exponent of the format. -/
def minExponent : Int := -1074

/-- The greatest exponent of the format. -/
def maxExponent : Int := 971

def zero : Binary64 := ⟨0, minExponent⟩

/-- The quotient to the nearest integer, to the even one in a tie. -/
def roundQuotient (num den : Nat) : Nat :=
  let q := num / den
  let twice := 2 * (num % den)
  if twice < den ∨ (twice = den ∧ q % 2 = 0) then q else q + 1

/-- The greatest `k` with `2 ^ k ≤ num / den`, for positive numbers. -/
def magnitude (num den : Nat) : Int :=
  let k : Int := (num.log2 : Int) - den.log2
  if den * Nat.pow 2 k.toNat ≤ num * Nat.pow 2 (-k).toNat then k else k - 1

/-- The number nearest to `num / den`, or `none` when that is beyond the format. -/
def nearest? (num den : Nat) : Option Binary64 :=
  if num = 0 then some zero
  else
    let e := max (magnitude num den - 52) minExponent
    let m := roundQuotient (num * Nat.pow 2 (-e).toNat) (den * Nat.pow 2 e.toNat)
    let r : Binary64 := if m = Nat.pow 2 53 then ⟨Nat.pow 2 52, e + 1⟩ else ⟨m, e⟩
    if r.exponent > maxExponent then none else some r

/-- The product, or `none` when it is beyond the format. -/
def mul? (a b : Binary64) : Option Binary64 :=
  let e := a.exponent + b.exponent
  nearest? (a.significand * b.significand * Nat.pow 2 e.toNat) (Nat.pow 2 (-e).toNat)

/-- The quotient, or `none` when it is beyond the format. -/
def div? (a b : Binary64) : Option Binary64 :=
  let e := a.exponent - b.exponent
  nearest? (a.significand * Nat.pow 2 e.toNat) (b.significand * Nat.pow 2 (-e).toNat)

/-- The power of ten in the format; `none` from `10 ^ 309` on. -/
def tenTo? (k : Nat) : Option Binary64 := if k ≤ 308 then nearest? (Nat.pow 10 k) 1 else none

/-- The number times `10 ^ k`. One multiplication or division reaches the powers of the format; a
smaller factor is divided out in steps of `10 ^ 308`. -/
def scaleByTen? (f : Binary64) (k : Int) : Option Binary64 :=
  if 0 ≤ k then
    if f.significand = 0 then some zero else (tenTo? k.toNat).bind (mul? f)
  else if -308 ≤ k then (tenTo? (-k).toNat).bind (div? f)
  else if f.significand = 0 then some zero
  else ((tenTo? 308).bind (div? f)).bind fun g => scaleByTen? g (k + 308)
termination_by (-k).toNat

/-- How often two divides a number (zero counts as not at all). -/
def twos (n : Nat) : Nat := if n = 0 ∨ n % 2 = 1 then 0 else twos (n / 2) + 1

/-- The exact value as a decimal, with no fraction digit that is not needed; a number below
`2 ^ -1022` keeps all its 1074 fraction digits. -/
def toDecimal (f : Binary64) : Decimal :=
  if f.significand = 0 then Decimal.ofInt 0
  else if f.significand < Nat.pow 2 52 then ⟨(f.significand * Nat.pow 5 1074 : Nat), 1074⟩
  else
    let common := min (twos f.significand) (-f.exponent).toNat
    let places := (-f.exponent).toNat - common
    let digits := f.significand / Nat.pow 2 common * Nat.pow 2 f.exponent.toNat * Nat.pow 5 places
    ⟨(digits : Nat), Int64.ofNat places⟩

end Binary64

end Marketplace
