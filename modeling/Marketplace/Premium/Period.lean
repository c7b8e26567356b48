import Marketplace.Storage

/-!
# The periods of a premium promotion

The catalogue: each period has a code, a description, a price in roubles and a length in days. The
code is also what is stored.
-/

namespace Marketplace

/-- How long a promotion runs. -/
inductive PremiumPeriod where
  | week
  | month
  | threeMonths
  | halfYear
  | year
  deriving DecidableEq, Repr

namespace PremiumPeriod

/-- The catalogue in the order of its codes. -/
def all : List PremiumPeriod := [week, month, threeMonths, halfYear, year]

/-- The code in the catalogue. -/
def code : PremiumPeriod → UInt64
  | week => 1
  | month => 2
  | threeMonths => 3
  | halfYear => 4
  | year => 5

/-- The period with a code of the catalogue. -/
def ofCode? (code : UInt64) : Option PremiumPeriod := all.find? (·.code = code)

/-- The code as it is stored. -/
def storedCode (p : PremiumPeriod) : Int16 := Int16.ofInt p.code.toNat

/-- The period with a stored code. -/
def ofStored? (code : Int16) : Except UnknownCode PremiumPeriod :=
  match (uint64? code).bind ofCode? with
  | some period => .ok period
  | none => .error ⟨.premiumPeriod, code⟩
where
  /-- A code that is not negative. -/
  uint64? (code : Int16) : Option UInt64 :=
    if 0 ≤ code then some (UInt64.ofNat code.toInt.toNat) else none

/-- The name on the wire. -/
def name : PremiumPeriod → String
  | week => "week"
  | month => "month"
  | threeMonths => "three_months"
  | halfYear => "half_year"
  | year => "year"

/-- The name in messages. -/
def label : PremiumPeriod → String
  | week => "Week"
  | month => "Month"
  | threeMonths => "ThreeMonths"
  | halfYear => "HalfYear"
  | year => "Year"

/-- The text in the catalogue. -/
def description : PremiumPeriod → String
  | week => "Premium listing for 1 week"
  | month => "Premium listing for 1 month"
  | threeMonths => "Premium listing for 3 months"
  | halfYear => "Premium listing for 6 months"
  | year => "Premium listing for 1 year"

/-- The price in roubles, as the payment provider expects it. -/
def amount : PremiumPeriod → String
  | week => "29.00"
  | month => "99.00"
  | threeMonths => "249.00"
  | halfYear => "449.00"
  | year => "799.00"

/-- The length in days. -/
def days : PremiumPeriod → Nat
  | week => 7
  | month => 30
  | threeMonths => 90
  | halfYear => 182
  | year => 365

@[simp] theorem ofCode?_code (p : PremiumPeriod) : ofCode? p.code = some p := by cases p <;> rfl

@[simp] theorem ofStored?_storedCode (p : PremiumPeriod) : ofStored? p.storedCode = .ok p := by
  cases p <;> rfl

end PremiumPeriod

end Marketplace
