import Marketplace.Order.Stock

/-!
# The basket

Adding to a basket, changing a count in it and taking an order out of it. None of them changes a
stock.
-/

namespace Marketplace

/-- Puts pieces of a product into a basket. -/
def addToBasket (owner : UserId) (id : ProductId) (count : Int32) : OrderWork BasketEntry := do
  let product ← reserve id count
  let (order, createdAt) ← Work.query (.insertOrder ⟨owner, id, count, OrderStatus.inBasket.code⟩)
  let images ← Work.query (.firstImages [id])
  let favourites ← Work.query (.favourites owner [id])
  return { id := order, owner, product := product.id, count, offer := product.offer,
           available := product.available, image := images.get? id,
           isFavourite := favourites.contains id, createdAt }

/-- Changes the count of an order in the basket. -/
def setCount (owner : UserId) (order : OrderId) (count : Int32) : OrderWork Unit := do
  Work.require (0 < count) (.invalidCount count)
  let held ← Work.orFail (.orderNotFound order) (← Work.query (.lockOrder order owner))
  Work.require (held.status = .inBasket) (.orderNotInBasket order)
  discard (reserve held.product count)
  let affected ← Work.query (.writeCount order owner count)
  Work.require (affected ≠ 0) (.orderNotInBasket order)

/-- Takes an order out of the basket. -/
def deleteFromBasket (owner : UserId) (order : OrderId) : OrderWork Unit := do
  let affected ← Work.query (.deleteBasketOrder order owner)
  Work.require (affected ≠ 0) (.noAffectedRows .basketDelete)

end Marketplace
