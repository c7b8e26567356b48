import Marketplace.Text.Integer

/-!
# Decimal numbers

A `Decimal` is an integer times a power of ten: `digits * 10 ^ (-scale)`. It keeps the scale it was
written with, so that `1500.00` stays `1500.00`.

* `Decimal.ofText?` reads one, `Decimal.text` writes one.
* `Decimal.Same` compares values: `1.50` and `1.5` are the same number.
-/

namespace Marketplace

/-- The number `digits * 10 ^ (-scale)`. -/
structure Decimal where
  digits : Int
  scale : Int64
  deriving DecidableEq, Repr

namespace Decimal

/-- An integer, with scale zero. -/
def ofInt (n : Int) : Decimal := ⟨n, 0⟩

/-- Two decimals with one value. -/
def Same (a b : Decimal) : Prop :=
  (a.digits : Rat) * 10 ^ (-a.scale.toInt) = (b.digits : Rat) * 10 ^ (-b.scale.toInt)

/-! ## Reading -/

/-- Decimal digits with underscores between them; the first character is a digit. -/
def grouped? : List Char → Option Nat
  | '_' :: _ => none
  | s => Text.natural? (s.filter (· ≠ '_'))

/-- The power of ten behind a mantissa: nothing, or `e` and a signed integer. -/
def exponent? : List Char → Option Int
  | [] => some 0
  | _ :: s => Text.integer? s

/-- A decimal from its text. The point is left out, and the digits behind it count for the
scale. -/
def ofText? (s : List Char) : Option Decimal := do
  let isMark := fun c => c = 'e' ∨ c = 'E'
  let mantissa := s.takeWhile (¬ isMark ·)
  let exponent ← exponent? (s.dropWhile (¬ isMark ·))
  let lead := mantissa.takeWhile (· ≠ '.')
  let trail := (mantissa.dropWhile (· ≠ '.')).drop 1
  let places := (trail.filter (· ≠ '_')).length
  let digits ← Text.signed? grouped? (lead ++ trail)
  let scale ← int64? (places - exponent)
  return ⟨digits, scale⟩

/-! ## Writing -/

/-- The digits of a nonzero number in its notation: scientific when more than five zeros would stand
between the point and the first digit, `e+` when more than fifteen zeros would end it, plain
otherwise. -/
def figures (digits : List Char) (scale : Int) : List Char :=
  let width := digits.length
  if scale - width > 5 then
    let point := if width = 1 then [] else ['.']
    digits.take 1 ++ point ++ digits.drop 1 ++ ['E', '-'] ++ Text.natural (scale + 1 - width).toNat
  else if scale < -15 then
    digits ++ ['e', '+'] ++ Text.natural (-scale).toNat
  else if scale ≤ 0 then
    digits ++ List.replicate (-scale).toNat '0'
  else
    let padding := List.replicate (scale.toNat + 1 - width) '0'
    let padded := padding ++ digits
    let whole := padded.length - scale.toNat
    padded.take whole ++ '.' :: padded.drop whole

/-- The text of a decimal. Zero is `0` whatever its scale. -/
def text (d : Decimal) : List Char :=
  if d.digits = 0 then ['0']
  else
    let sign := if d.digits < 0 then ['-'] else []
    sign ++ figures (Text.natural d.digits.natAbs) d.scale.toInt

end Decimal

end Marketplace
