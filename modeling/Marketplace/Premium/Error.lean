import Marketplace.Instant.Text
import Marketplace.Premium.Period
import Marketplace.Premium.Status

/-!
# What can go wrong with a promotion

`PaymentError` lists the causes and `PaymentError.message` words them. `PaymentError.isCrash` tells
the error after which nothing is put in order.
-/

namespace Marketplace

/-- Why a call of the payment service fails. -/
inductive PaymentError where
  | unknownPeriodCode (code : UInt64)
  | productNotFound (id : Int64)
  | invalidTransition (source target : PremiumStatus)
  | periodMismatch (expected : Option PremiumPeriod) (requested : PremiumPeriod)
  | promotionRunning (expire : Instant)
  /-- The window would end beyond the last instant. -/
  | windowOutOfRange
  | storage (fault : StorageFault)
  deriving DecidableEq, Repr

namespace PaymentError

/-- A period that may be missing. -/
def periodLabel : Option PremiumPeriod → String
  | some period => "Some(" ++ period.label ++ ")"
  | none => "None"

/-- The wording of an error. -/
def message : PaymentError → String
  | unknownPeriodCode code => s!"unknown premium period code {code}"
  | productNotFound id => s!"product {id} not found"
  | invalidTransition source target =>
    "premium status cannot change from " ++ source.label ++ " to " ++ target.label
  | periodMismatch expected requested =>
    "premium payment is for " ++ periodLabel expected ++ ", got " ++ requested.label
  | promotionRunning expire => "premium promotion runs until " ++ String.ofList expire.plainText
  | windowOutOfRange => "premium promotion would end beyond the last instant"
  | storage fault => fault.message

/-- Whether the error stops the work at once: its transaction is left open, and the request gets no
response. -/
def isCrash : PaymentError → Bool
  | windowOutOfRange => true
  | _ => false

/-- The error of a stored code that means nothing. -/
def unknownCode (e : UnknownCode) : PaymentError := storage (.unknownCode e)

end PaymentError

end Marketplace
