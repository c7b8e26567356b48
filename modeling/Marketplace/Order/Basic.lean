import Marketplace.Decimal
import Marketplace.Instant.Basic
import Marketplace.Order.Status

/-!
# Products and orders

* `Product`: what is for sale. Its `Offer` is the part that a listing shows.
* `StoredOrder`: an order as it is stored; its status is a code that need not mean anything.
* `OrderRow`: a stored order next to the current offer of its product.
* `BasketEntry`, `OrderView`: an order as its buyer or its saler sees it.
-/

namespace Marketplace

abbrev UserId := Int64
abbrev ProductId := Int64
abbrev OrderId := Int64

/-- What a listing shows of a product. -/
structure Offer where
  saler : UserId
  title : String
  price : Decimal
  city : String
  delivery : Bool
  safeDeal : Bool
  deriving DecidableEq, Repr

/-- What is for sale, with its stock. -/
structure Product where
  id : ProductId
  offer : Offer
  /-- How many pieces are in stock. -/
  available : Int32
  isActive : Bool
  deriving DecidableEq, Repr

/-- An order as it is stored. -/
structure StoredOrder where
  id : OrderId
  owner : UserId
  product : ProductId
  count : Int32
  status : Int16
  createdAt : Instant
  updatedAt : Instant
  deriving DecidableEq, Repr

/-- Whether an order is in its buyer's basket. -/
def StoredOrder.isInBasket (o : StoredOrder) : Bool := o.status = OrderStatus.inBasket.code

/-- Whether an order has left the basket. -/
def StoredOrder.hasLeftBasket (o : StoredOrder) : Bool := OrderStatus.inBasket.code < o.status

/-- An order to be stored. -/
structure NewOrder where
  owner : UserId
  product : ProductId
  count : Int32
  status : Int16
  deriving DecidableEq, Repr

/-- The part of an order that decides about its next step. -/
structure LockedOrder where
  status : OrderStatus
  count : Int32
  product : ProductId
  deriving DecidableEq, Repr

/-- A stored order and what its product offers now. -/
structure OrderRow where
  order : StoredOrder
  offer : Offer
  available : Int32
  deriving DecidableEq, Repr

/-- Which orders a listing holds. -/
inductive OrderFilter where
  /-- The buyer's orders in the basket. -/
  | inBasket (owner : UserId)
  /-- The buyer's orders that have left the basket. -/
  | notInBasket (owner : UserId)
  /-- The orders that have left the basket, of a saler's products. -/
  | soldBy (saler : UserId)
  deriving DecidableEq, Repr

/-- Whether a row belongs into a listing. -/
def OrderFilter.accepts : OrderFilter → OrderRow → Bool
  | inBasket owner, r => r.order.owner = owner && r.order.isInBasket
  | notInBasket owner, r => r.order.owner = owner && r.order.hasLeftBasket
  | soldBy saler, r => r.offer.saler = saler && r.order.hasLeftBasket

/-- An order in its buyer's basket. -/
structure BasketEntry where
  id : OrderId
  owner : UserId
  product : ProductId
  count : Int32
  offer : Offer
  available : Int32
  image : Option String
  isFavourite : Bool
  createdAt : Instant
  deriving DecidableEq, Repr

/-- An order with its status. -/
structure OrderView where
  id : OrderId
  owner : UserId
  product : ProductId
  count : Int32
  status : OrderStatus
  offer : Offer
  image : Option String
  isFavourite : Bool
  createdAt : Instant
  updatedAt : Instant
  deriving DecidableEq, Repr

namespace OrderRow

/-- The row as a basket entry, whatever its status. -/
def basketEntry (r : OrderRow) (image : Option String) (isFavourite : Bool) : BasketEntry :=
  { id := r.order.id, owner := r.order.owner, product := r.order.product, count := r.order.count,
    offer := r.offer, available := r.available, image, isFavourite,
    createdAt := r.order.createdAt }

/-- The row as an order; fails on a status that means nothing. -/
def view? (r : OrderRow) (image : Option String) (isFavourite : Bool) :
    Except UnknownCode OrderView :=
  (OrderStatus.ofCode? r.order.status).map fun status =>
    { id := r.order.id, owner := r.order.owner, product := r.order.product, count := r.order.count,
      status, offer := r.offer, image, isFavourite, createdAt := r.order.createdAt,
      updatedAt := r.order.updatedAt }

end OrderRow

end Marketplace
