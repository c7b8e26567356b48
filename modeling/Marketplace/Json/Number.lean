import Marketplace.Binary64
import Marketplace.Json.Reader

/-!
# JSON numbers

A number is an exact integer when it is written without fraction and exponent and lies between
`-2 ^ 63` and `2 ^ 64`; all others, and `-0`, are binary floating point. Of a long number only the
leading digits count that fit into 64 bits.

* `readNumber` reads one; a number beyond the floating point range is malformed.
* `skipNumber` passes over one of any size.
-/

namespace Marketplace.Json

/-- A number as it is kept. -/
inductive Number where
  | integer (n : Int)
  | float (negative : Bool) (value : Binary64)
  deriving DecidableEq, Repr

/-- The leading digits of a number: their value, and the power of ten behind them. -/
structure Significand where
  value : Nat
  exponent : Int
  /-- Further digits are dropped. -/
  full : Bool

namespace Significand

/-- The digit that makes the value too large for 64 bits, and all behind it, are dropped. -/
def fits (m : Significand) (digit : Nat) : Bool := m.value * 10 + digit < UInt64.size

/-- The significand with one more digit before the point. -/
def pushWhole (m : Significand) (c : Char) : Significand :=
  let digit := c.toNat - '0'.toNat
  if m.full ∨ ¬ m.fits digit then { m with exponent := m.exponent + 1, full := true }
  else { m with value := m.value * 10 + digit }

/-- The significand with one more digit behind the point. -/
def pushFraction (m : Significand) (c : Char) : Significand :=
  let digit := c.toNat - '0'.toNat
  if m.full ∨ ¬ m.fits digit then { m with full := true }
  else { m with value := m.value * 10 + digit, exponent := m.exponent - 1 }

/-- The floating point number of a significand, its exponent raised by `e`. -/
def toBinary64? (m : Significand) (e : Int) : Option Binary64 :=
  (Binary64.nearest? m.value 1).bind (·.scaleByTen? (m.exponent + e))

end Significand

/-- The digits at the front of a text. -/
def takeDigits : Reader (List Char) := fun s =>
  let ds := s.takeWhile Char.isDigit
  .ok (ds, s.drop ds.length)

/-- One or more digits. -/
def readDigits : Reader (List Char) := do
  let ds ← takeDigits
  match ds, ← peek with
  | [], none => throw .truncated
  | [], some _ => throw .malformed
  | ds, _ => return ds

/-- The digits before the point: `0`, or digits without a leading zero. -/
def readWhole : Reader (List Char) := do
  let ds ← readDigits
  if ds.length > 1 ∧ ds.head? = some '0' then throw .malformed
  return ds

/-- Skips this character if it is next, and tells whether it was. -/
def skipIf (p : Char → Bool) : Reader Bool := do
  match ← peek with
  | some c => if p c then do skipChar; return true else return false
  | none => return false

/-- The power of ten behind its `e`. -/
def readExponent : Reader Int := do
  let negative ← skipIf (· = '-')
  unless negative do discard (skipIf (· = '+'))
  let ds ← readDigits
  let n := Nat.ofDigitChars 10 ds 0
  return if negative then -(n : Int) else n

def isExponentMark (c : Char) : Bool := c = 'e' || c = 'E'

/-- The number of an unsigned text, and whether it has neither fraction nor exponent. -/
def readUnsigned : Reader (Significand × Int × Bool) := do
  let whole ← readWhole
  let m := whole.foldl Significand.pushWhole ⟨0, 0, false⟩
  let fractional ← skipIf (· = '.')
  let places ← if fractional then readDigits else pure []
  let m := if fractional then places.foldl Significand.pushFraction { m with full := false } else m
  let scaled ← skipIf isExponentMark
  let e ← if scaled then readExponent else pure 0
  return (m, e, !fractional && !scaled)

/-- A number. -/
def readNumber : Reader Number := do
  let negative ← skipIf (· = '-')
  let (m, e, plain) ← readUnsigned
  let n : Int := if negative then -(m.value : Int) else m.value
  if plain ∧ ¬ m.full ∧ Int64.minValue.toInt ≤ n ∧ ¬ (negative ∧ n = 0) then return .integer n
  else
    match m.toBinary64? e with
    | some f => return .float negative f
    | none => throw .malformed

/-- Digits that have to be there. -/
def skipDigits : Reader Unit := do
  if (← takeDigits) = [] then throw .malformed

/-- Passes over a number. -/
def skipNumber : Reader Unit := do
  discard (skipIf (· = '-'))
  let whole ← takeDigits
  if whole = [] ∨ (whole.length > 1 ∧ whole.head? = some '0') then throw .malformed
  if ← skipIf (· = '.') then skipDigits
  if ← skipIf isExponentMark then do
    discard (skipIf fun c => c = '-' || c = '+')
    skipDigits

end Marketplace.Json
