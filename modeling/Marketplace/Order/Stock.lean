import Marketplace.Order.Query

/-!
# Stock

* `reserve` checks that an active product has enough pieces, and changes nothing.
* `commitStock` takes the pieces.
-/

namespace Marketplace

/-- The product `id`, if it is active and has `requested` pieces. It stays held until the work ends,
so that what follows meets the same stock. -/
def reserve (id : ProductId) (requested : Int32) : OrderWork Product := do
  Work.require (0 < requested) (.invalidCount requested)
  let product ← Work.orFail (.productNotFound id)
    ((← Work.query (.lockProduct id)).filter (·.isActive))
  let available := product.available
  if available < requested then
    Work.log ⟨.warn, s!"Product {id} has {available} in stock, {requested} requested"⟩
    Work.fail (.insufficientStock requested available)
  else return product

/-- Takes `count` pieces from a stock. -/
def commitStock (id : ProductId) (count : Int32) : OrderWork Unit := do
  let affected ← Work.query (.decrementStock id count)
  Work.require (affected ≠ 0) (.noAffectedRows .stockDecrement)

end Marketplace
