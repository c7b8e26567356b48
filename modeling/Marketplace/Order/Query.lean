import Marketplace.Order.Basic
import Marketplace.Order.Error
import Marketplace.Table
import Marketplace.Transcript

/-!
# What the order service asks its store

`OrderQuery` lists the questions, each with the type of its answer. A write answers with the number
of rows that it changed: a store does not decide what zero rows mean.
-/

namespace Marketplace

/-- A question to a store of orders. -/
inductive OrderQuery : Type → Type where
  /-- A product, to be held until the work ends. -/
  | lockProduct (product : ProductId) : OrderQuery (Option Product)
  /-- Takes pieces from a stock that has as many. -/
  | decrementStock (product : ProductId) (count : Int32) : OrderQuery Nat
  /-- Stores an order; its identifier and the time. -/
  | insertOrder (order : NewOrder) : OrderQuery (OrderId × Instant)
  /-- An order of this owner, to be held until the work ends. -/
  | lockOrder (order : OrderId) (owner : UserId) : OrderQuery (Option LockedOrder)
  /-- Moves an order on if it still has the status `source`. -/
  | writeStatus (order : OrderId) (source target : OrderStatus) : OrderQuery Nat
  /-- Changes the count of this owner's order in the basket. -/
  | writeCount (order : OrderId) (owner : UserId) (count : Int32) : OrderQuery Nat
  /-- Deletes this owner's order in the basket. -/
  | deleteBasketOrder (order : OrderId) (owner : UserId) : OrderQuery Nat
  /-- The orders in a basket, by increasing identifier. -/
  | basketOrderIds (owner : UserId) : OrderQuery (List OrderId)
  | loadOrders (filter : OrderFilter) : OrderQuery (List OrderRow)
  /-- The first image of each of these products that has one. -/
  | firstImages (products : List ProductId) : OrderQuery (Table String)
  /-- Which of these products are among the owner's favourites. -/
  | favourites (owner : UserId) (products : List ProductId) : OrderQuery (List ProductId)

namespace OrderQuery

/-- The name of a question in a transcript. -/
def method : {β : Type} → OrderQuery β → String
  | _, lockProduct _ => "lock_product"
  | _, decrementStock _ _ => "decrement_stock"
  | _, insertOrder _ => "insert_order"
  | _, lockOrder _ _ => "lock_order"
  | _, writeStatus _ _ _ => "write_status"
  | _, writeCount _ _ _ => "write_count"
  | _, deleteBasketOrder _ _ => "delete_basket_order"
  | _, basketOrderIds _ => "basket_order_ids"
  | _, loadOrders _ => "load_orders"
  | _, firstImages _ => "first_images"
  | _, favourites _ _ => "favourites"

/-- The answer of a store that holds nothing; an order cannot be stored in it. -/
def nothing? : {β : Type} → OrderQuery β → Option β
  | _, lockProduct _ => some none
  | _, decrementStock _ _ => some 0
  | _, insertOrder _ => none
  | _, lockOrder _ _ => some none
  | _, writeStatus _ _ _ => some 0
  | _, writeCount _ _ _ => some 0
  | _, deleteBasketOrder _ _ => some 0
  | _, basketOrderIds _ => some []
  | _, loadOrders _ => some []
  | _, firstImages _ => some ∅
  | _, favourites _ _ => some []

end OrderQuery

instance : NamedQuery OrderQuery where
  method := OrderQuery.method
  nothing? := OrderQuery.nothing?

/-- Work on a store of orders. -/
abbrev OrderWork := Work OrderQuery OrderError

end Marketplace
