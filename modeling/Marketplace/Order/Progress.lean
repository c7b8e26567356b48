import Marketplace.Order.Stock

/-!
# The way of an order

* `moveOrder` moves one order forward.
* `buyBasket` moves all orders of a basket into processing, or none.
-/

namespace Marketplace

/-- Moves an order forward. An order that leaves the basket takes its pieces from the stock; it does
so once, as the write is guarded by the status that was read. -/
def moveOrder (order : OrderId) (owner : UserId) (target : OrderStatus) : OrderWork Unit := do
  let held ← Work.orFail (.orderNotFound order) (← Work.query (.lockOrder order owner))
  Work.require (held.status < target) (.statusMustIncrease held.status target)
  if held.status = .inBasket then
    commitStock held.product held.count
  let affected ← Work.query (.writeStatus order held.status target)
  Work.require (affected ≠ 0) (.noAffectedRows .statusUpdate)
  let source := held.status.label
  let target := target.label
  Work.log ⟨.info, s!"Order {order} moved from {source} to {target}"⟩

/-- Moves the listed orders of one owner into processing, in their order. -/
def buyOrders (owner : UserId) : List OrderId → OrderWork Unit
  | [] => return ()
  | order :: orders => do
    moveOrder order owner .inProcessing
    buyOrders owner orders

/-- Buys a basket: how many orders were in it. -/
def buyBasket (owner : UserId) : OrderWork Nat := do
  let orders ← Work.query (.basketOrderIds owner)
  Work.require (orders ≠ []) .noOrdersToBuy
  buyOrders owner orders
  return orders.length

end Marketplace
