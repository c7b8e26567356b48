import Marketplace.Order.Basket
import Marketplace.Order.Ledger
import Marketplace.Order.Listing
import Marketplace.Order.Progress

/-!
# Calls of the order service

An `OrderCall` is one request of a user. It is one unit of work, and one transaction on whichever
store runs it.

* `OrderCall.work` is its work, `OrderCall.notice` the log line of its success.
* `Ledger.perform` runs a call on a ledger.
-/

namespace Marketplace

/-- A request of a user to the order service. -/
inductive OrderCall where
  | add (user : UserId) (product : ProductId) (count : Int32)
  | setCount (user : UserId) (order : OrderId) (count : Int32)
  | setStatus (user : UserId) (order : OrderId) (status : OrderStatus)
  | buy (user : UserId)
  | delete (user : UserId) (order : OrderId)
  | basket (user : UserId)
  | bought (user : UserId)
  | sold (user : UserId)
  deriving DecidableEq, Repr

/-- What a call returns. -/
inductive OrderAnswer where
  | nothing
  | entry (e : BasketEntry)
  | bought (orders : Nat)
  | entries (es : List BasketEntry)
  | orders (os : List OrderView)
  deriving DecidableEq, Repr

namespace OrderCall

/-- Who makes the call. -/
def user : OrderCall → UserId
  | add user _ _ | setCount user _ _ | setStatus user _ _ | buy user | delete user _
  | basket user | bought user | sold user => user

/-- The work of a call. -/
def work : OrderCall → OrderWork OrderAnswer
  | add user product count => .entry <$> addToBasket user product count
  | setCount user order count => (fun _ => .nothing) <$> Marketplace.setCount user order count
  | setStatus user order status => (fun _ => .nothing) <$> moveOrder order user status
  | buy user => .bought <$> buyBasket user
  | delete user order => (fun _ => .nothing) <$> deleteFromBasket user order
  | basket user => .entries <$> basketEntries user
  | bought user => .orders <$> listOrders (.notInBasket user) user
  | sold user => .orders <$> listOrders (.soldBy user) user

/-- What is logged once the call has succeeded. -/
def notice : OrderCall → OrderAnswer → List LogLine
  | add user product count, .entry e =>
    let order := e.id
    [⟨.info, s!"User {user} put {count} of product {product} into basket as order {order}"⟩]
  | buy user, .bought orders => [⟨.info, s!"User {user} bought {orders} orders from basket"⟩]
  | delete user order, _ => [⟨.info, s!"Order {order} removed from basket of user {user}"⟩]
  | _, _ => []

/-- The outcome of a call's transaction, with the notice of a success. -/
def announce.{u} {σ : Type u} (call : OrderCall) (o : Outcome σ OrderError OrderAnswer) :
    Outcome σ OrderError OrderAnswer :=
  match o.result with
  | .ok a => { o with log := o.log ++ call.notice a }
  | .error _ => o

@[simp] theorem announce_result.{u} {σ : Type u} (call : OrderCall)
    (o : Outcome σ OrderError OrderAnswer) : (call.announce o).result = o.result := by
  unfold announce
  split <;> rfl

@[simp] theorem announce_state.{u} {σ : Type u} (call : OrderCall)
    (o : Outcome σ OrderError OrderAnswer) : (call.announce o).state = o.state := by
  unfold announce
  split <;> rfl

end OrderCall

/-- One call on a ledger, with the clock at `now`. -/
def Ledger.perform (now : Instant) (call : OrderCall) (l : Ledger) :
    Outcome Ledger OrderError OrderAnswer :=
  call.announce (l.transact now call.work)

end Marketplace
