import Marketplace.Premium.State
import Marketplace.Table
import Marketplace.Work

/-!
# Promotions kept in memory

A `Showcase` holds the saler and the promotion of each product. `Showcase.update` makes one change.
-/

namespace Marketplace

/-- A product with its promotion. -/
structure Exhibit where
  saler : Int64
  premium : PremiumState
  deriving DecidableEq, Repr

/-- A change of a product's promotion; with a saler, only that saler's product is meant. -/
structure PremiumUpdate where
  product : Int64
  saler : Option Int64
  change : PremiumChange
  deriving DecidableEq, Repr

/-- Whether an update means a product of this saler. -/
def PremiumUpdate.concerns (u : PremiumUpdate) (saler : Int64) : Bool := u.saler.all (· = saler)

/-- The products by identifier. -/
abbrev Showcase := Table Exhibit

namespace Showcase

/-- Adds a product that was never promoted, in place of one with its identifier. -/
def put (s : Showcase) (product saler : Int64) : Showcase := s.insert product ⟨saler, .inactive⟩

/-- Makes one change; an error leaves all promotions as they were. -/
def update (u : PremiumUpdate) (s : Showcase) : Outcome Showcase PaymentError PremiumState :=
  match (s.get? u.product).filter (u.concerns ·.saler) with
  | none => .error (.productNotFound u.product) s
  | some exhibit =>
    match exhibit.premium.advance u.change with
    | .error e => .error e s
    | .ok next => .ok next (s.insert u.product { exhibit with premium := next })

end Showcase

end Marketplace
