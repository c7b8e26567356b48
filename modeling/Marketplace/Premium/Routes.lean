import Marketplace.Http.Caller
import Marketplace.Http.Router
import Marketplace.Premium.Wire

/-!
# The payment service over HTTP

* `paymentRoutes` are its routes: each names the caller or the provider first, then reads the path,
  then the body. The catalogue is open to all.
* `PaymentAnswer.response` and `PaymentError.response` word what a call returned. An error of the
  storage is logged and not shown.
* `servePayments` answers a request from any store.
-/

namespace Marketplace

open Http

namespace PaymentError

/-- The status of the response to an error. -/
def httpStatus : PaymentError → Nat
  | unknownPeriodCode _ => 400
  | productNotFound _ => 404
  | invalidTransition _ _ | periodMismatch _ _ | promotionRunning _ => 409
  | windowOutOfRange | storage _ => 500

/-- The response to an error. -/
def response (e : PaymentError) : Response :=
  .error e.httpStatus (if e.httpStatus < 500 then e.message else "failed to process payment")

/-- What is logged of an error. -/
def log (e : PaymentError) : List LogLine :=
  if e.httpStatus < 500 then [] else [⟨.error, "Premium operation failed: " ++ e.message⟩]

end PaymentError

/-- The response to a call that succeeded. -/
def PaymentAnswer.response : PaymentAnswer → Response
  | request r => .json 200 PaymentRequest.codec r
  | state s => .json 200 PremiumState.codec s
  | token t => .json 200 .string t

/-- The response to a call, and what is logged of it; there is none after a crash. -/
def answerPayment :
    Except PaymentError PaymentAnswer → Except PaymentError (Response × List LogLine)
  | .ok a => .ok (a.response, [])
  | .error e => if e.isCrash then .error e else .ok (e.response, e.log)

/-- One period of the catalogue. -/
def showPeriod (code : UInt64) : Response :=
  match knownPeriod code with
  | .ok period => .json 200 PeriodView.codec period.view
  | .error e => .error 404 e.message

/-- The routes, for a provider with this secret. -/
def paymentRoutes (secret : String) : List (Route PaymentCall) :=
  [⟨[.fixed "premium", .fixed "periods"],
    [("GET", fun _ _ =>
      .error (.jsonList 200 PeriodView.codec (PremiumPeriod.all.map PremiumPeriod.view)))]⟩,
   ⟨[.fixed "premium", .fixed "periods", .parameter],
    [("GET", fun params _ => do
        let code ← parameter pathUInt64? params
        .error (showPeriod code))]⟩,
   ⟨[.fixed "premium", .fixed "checkout"],
    [("POST", fun _ request => do
        let user ← caller request
        let body ← decodeBody CheckoutRequest.codec request
        return .checkout user body.product body.periodCode)]⟩,
   ⟨[.fixed "premium", .parameter, .fixed "status"],
    [("PUT", fun params request => do
        checkProvider secret request
        let product ← parameter pathInt64? params
        let body ← decodeBody ReportRequest.codec request
        return .apply product body.status body.periodCode)]⟩,
   healthRoute]

/-- Answers a request from a store that performs calls. -/
def servePayments.{u} {σ : Type u} (secret : String)
    (perform : PaymentCall → σ → Outcome σ PaymentError PaymentAnswer) :
    Request → σ → Outcome σ PaymentError Response :=
  serve (paymentRoutes secret) perform answerPayment

end Marketplace
