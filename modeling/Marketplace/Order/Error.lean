import Marketplace.Order.Status

/-!
# What can go wrong with an order

`OrderError` lists the causes and `OrderError.message` words them. `OrderError.isClient` tells the
errors that the caller can act on from those of the storage, and `OrderError.isCrash` tells the
error after which nothing is put in order.
-/

namespace Marketplace

/-- A write that has to change a row. -/
inductive GuardedWrite where
  | statusUpdate
  | basketDelete
  | stockDecrement
  deriving DecidableEq, Repr

def GuardedWrite.label : GuardedWrite → String
  | .statusUpdate => "order status update"
  | .basketDelete => "basket order delete"
  | .stockDecrement => "product stock decrement"

/-- Why a call of the order service fails. -/
inductive OrderError where
  | insufficientStock (requested available : Int32)
  | statusMustIncrease (current requested : OrderStatus)
  | orderNotFound (id : Int64)
  | orderNotInBasket (id : Int64)
  | noOrdersToBuy
  | productNotFound (id : Int64)
  | invalidCount (count : Int32)
  /-- A guarded write changed nothing. -/
  | noAffectedRows (write : GuardedWrite)
  /-- Every identifier of an order has been given. -/
  | identifiersUsedUp
  | storage (fault : StorageFault)
  deriving DecidableEq, Repr

namespace OrderError

/-- The wording of an error. -/
def message : OrderError → String
  | insufficientStock requested available =>
    s!"insufficient stock: requested {requested}, available {available}"
  | statusMustIncrease current requested =>
    "status must increase: order is " ++ current.label ++ ", requested " ++ requested.label
  | orderNotFound id => s!"order {id} not found"
  | orderNotInBasket id => s!"order {id} is no longer in the basket"
  | noOrdersToBuy => "no orders in basket to buy"
  | productNotFound id => s!"product {id} not found"
  | invalidCount count => s!"count must be positive, got {count}"
  | noAffectedRows write => "no rows affected by " ++ write.label
  | identifiersUsedUp => "no identifier is left for a new order"
  | storage fault => fault.message

/-- Whether the caller can act on the error. -/
def isClient : OrderError → Bool
  | noAffectedRows _ | identifiersUsedUp | storage _ => false
  | _ => true

/-- Whether the error stops the work at once: its transaction is left open, and the request gets no
response. -/
def isCrash : OrderError → Bool
  | identifiersUsedUp => true
  | _ => false

/-- The error of a status that means nothing. -/
def unknownStatus (e : UnknownCode) : OrderError := storage (.unknownCode e)

end OrderError

end Marketplace
