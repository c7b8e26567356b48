import Marketplace.Json.Record
import Marketplace.Premium.Checkout

/-!
# Promotions in JSON

The codecs of what the payment service takes and gives, each with its members in their order on the
wire.
-/

namespace Marketplace

open Json

def PremiumStatus.codec : Codec PremiumStatus := .choice all name

def PremiumPeriod.codec : Codec PremiumPeriod := .choice all name

def PremiumState.codec : Codec PremiumState :=
  .record
    (.cons "status" PremiumStatus.codec <| .cons "period" (.option PremiumPeriod.codec) <|
      .cons "begin" (.option .instant) <| .cons "expire" (.option .instant) .nil)
    (fun s => (s.status, s.period, s.begin, s.expire, ()))
    (fun (status, period, begin, expire, ()) => ⟨status, period, begin, expire⟩)

def PaymentRequest.codec : Codec PaymentRequest :=
  .record
    (.cons "idempotency_key" .string <| .cons "amount" .string <| .cons "currency" .string <|
      .cons "description" .string <| .cons "product_id" .int64 <|
      .cons "period" PremiumPeriod.codec .nil)
    (fun r => (r.token, r.amount, r.currency, r.description, r.product, r.period, ()))
    (fun (token, amount, currency, description, product, period, ()) =>
      ⟨token, amount, currency, description, product, period⟩)

/-- A period as the catalogue shows it. -/
structure PeriodView where
  code : UInt64
  period : PremiumPeriod
  description : String
  amount : String
  days : Int64
  deriving DecidableEq, Repr

/-- The catalogue's entry for a period. -/
def PremiumPeriod.view (p : PremiumPeriod) : PeriodView :=
  ⟨p.code, p, p.description, p.amount, Int64.ofNat p.days⟩

def PeriodView.codec : Codec PeriodView :=
  .record
    (.cons "code" .uint64 <| .cons "period" PremiumPeriod.codec <|
      .cons "description" .string <| .cons "amount" .string <| .cons "days" .int64 .nil)
    (fun v => (v.code, v.period, v.description, v.amount, v.days, ()))
    (fun (code, period, description, amount, days, ()) => ⟨code, period, description, amount, days⟩)

/-! ## Requests -/

/-- The body of a request that begins a checkout. -/
structure CheckoutRequest where
  product : Int64
  periodCode : UInt64
  deriving DecidableEq, Repr

def CheckoutRequest.codec : Codec CheckoutRequest :=
  .record (.cons "product_id" .int64 <| .cons "period_code" .uint64 .nil)
    (fun r => (r.product, r.periodCode, ())) (fun (product, code, ()) => ⟨product, code⟩)

/-- The body of a report of the payment provider. -/
structure ReportRequest where
  status : PremiumStatus
  periodCode : UInt64
  deriving DecidableEq, Repr

def ReportRequest.codec : Codec ReportRequest :=
  .record (.cons "status" PremiumStatus.codec <| .cons "period_code" .uint64 .nil)
    (fun r => (r.status, r.periodCode, ())) (fun (status, code, ()) => ⟨status, code⟩)

end Marketplace
