import Marketplace.Http.Caller
import Marketplace.Http.Router
import Marketplace.Order.Call
import Marketplace.Order.Wire

/-!
# The order service over HTTP

* `orderRoutes` are its routes: each names the caller first, then reads the path, then the body.
* `OrderAnswer.response` and `OrderError.response` word what a call returned. An error of the
  storage is logged and not shown.
* `serveOrders` answers a request from any store.
-/

namespace Marketplace

open Http

namespace OrderError

/-- The status of the response to an error. -/
def httpStatus : OrderError → Nat
  | orderNotFound _ | productNotFound _ => 404
  | insufficientStock _ _ | statusMustIncrease _ _ | orderNotInBasket _ => 409
  | noOrdersToBuy | invalidCount _ => 400
  | noAffectedRows _ | identifiersUsedUp | storage _ => 500

/-- The response to an error. -/
def response (e : OrderError) : Response :=
  .error e.httpStatus (if e.isClient then e.message else "failed to process order")

/-- What is logged of an error. -/
def log (e : OrderError) : List LogLine :=
  if e.isClient then [] else [⟨.error, "Order operation failed: " ++ e.message⟩]

end OrderError

/-- The response to a call that succeeded. -/
def OrderAnswer.response : OrderAnswer → Response
  | nothing => .empty 204
  | entry e => .json 201 BasketEntry.codec e
  | bought n => .json 200 Purchase.codec ⟨UInt64.ofNat n⟩
  | entries es => .jsonList 200 BasketEntry.codec es
  | orders os => .jsonList 200 OrderView.codec os

/-- The response to a call, and what is logged of it; there is none after a crash. -/
def answerOrder : Except OrderError OrderAnswer → Except OrderError (Response × List LogLine)
  | .ok a => .ok (a.response, [])
  | .error e => if e.isCrash then .error e else .ok (e.response, e.log)

/-- The routes of the order service. -/
def orderRoutes : List (Route OrderCall) :=
  [⟨[.fixed "basket"],
    [("POST", fun _ request => do
        let user ← caller request
        let body ← decodeBody AddRequest.codec request
        return .add user body.product body.count),
     ("GET", fun _ request => do return .basket (← caller request))]⟩,
   ⟨[.fixed "basket", .fixed "buy"],
    [("POST", fun _ request => do return .buy (← caller request))]⟩,
   ⟨[.fixed "orders"],
    [("GET", fun _ request => do return .bought (← caller request))]⟩,
   ⟨[.fixed "orders", .fixed "sold"],
    [("GET", fun _ request => do return .sold (← caller request))]⟩,
   ⟨[.fixed "orders", .parameter],
    [("DELETE", fun params request => do
        let user ← caller request
        let order ← parameter pathInt64? params
        return .delete user order)]⟩,
   ⟨[.fixed "orders", .parameter, .fixed "count"],
    [("PUT", fun params request => do
        let user ← caller request
        let order ← parameter pathInt64? params
        let body ← decodeBody CountRequest.codec request
        return .setCount user order body.count)]⟩,
   ⟨[.fixed "orders", .parameter, .fixed "status"],
    [("PUT", fun params request => do
        let user ← caller request
        let order ← parameter pathInt64? params
        let body ← decodeBody StatusRequest.codec request
        return .setStatus user order body.status)]⟩,
   healthRoute]

/-- Answers a request from a store that performs calls. -/
def serveOrders.{u} {σ : Type u} (perform : OrderCall → σ → Outcome σ OrderError OrderAnswer) :
    Request → σ → Outcome σ OrderError Response :=
  serve orderRoutes perform answerOrder

end Marketplace
