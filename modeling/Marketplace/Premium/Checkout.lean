import Marketplace.Premium.Showcase
import Marketplace.Premium.Token
import Marketplace.Transcript

/-!
# Calls of the payment service

A `PaymentCall` is one request of a user or of the payment provider.

* `PaymentQuery` is what a call asks: changes of promotions and keys of payments.
* `PaymentCall.work` is the work of a call, with the clock at a given instant.
-/

namespace Marketplace

/-- A question to the store of promotions and the keeper of keys. -/
inductive PaymentQuery : Type → Type where
  | update (u : PremiumUpdate) : PaymentQuery PremiumState
  | token (key : PaymentKey) : PaymentQuery IssuedToken

namespace PaymentQuery

/-- The name of a question in a transcript. -/
def method : {β : Type} → PaymentQuery β → String
  | _, update _ => "update_premium"
  | _, token _ => "token"

/-- There is no promotion and no key without a product and a user. -/
def nothing? : {β : Type} → PaymentQuery β → Option β
  | _, _ => none

end PaymentQuery

instance : NamedQuery PaymentQuery where
  method := PaymentQuery.method
  nothing? := PaymentQuery.nothing?

/-- Work on promotions and keys. -/
abbrev PaymentWork := Work PaymentQuery PaymentError

/-- What the payment provider needs to create a payment. -/
structure PaymentRequest where
  token : String
  amount : String
  currency : String
  description : String
  product : Int64
  period : PremiumPeriod
  deriving DecidableEq, Repr

/-- All payments are in roubles. -/
def currency : String := "RUB"

/-- The period with a code of the catalogue. -/
def knownPeriod (code : UInt64) : Except PaymentError PremiumPeriod :=
  match PremiumPeriod.ofCode? code with
  | some period => .ok period
  | none => .error (.unknownPeriodCode code)

/-- The key of a payment; a new one is logged. -/
def paymentToken (key : PaymentKey) : PaymentWork String := do
  let issued ← Work.query (.token key)
  match issued.minted with
  | none => return issued.token
  | some size =>
    let user := key.user
    let product := key.product
    let code := key.periodCode
    let about := s!"for user {user} product {product} period {code} cached={size}"
    Work.log ⟨.debug, "Minted payment idempotency key " ++ about⟩
    return issued.token

/-- Begins a checkout and builds the request for the provider. The key is handed out once the
promotion has changed, so a checkout that fails mints none. -/
def checkout (now : Instant) (user product : Int64) (code : UInt64) :
    PaymentWork PaymentRequest := do
  let period ← Work.ofExcept (knownPeriod code)
  discard (Work.query (.update ⟨product, some user, .checkout period now⟩))
  let token ← paymentToken ⟨user, product, code⟩
  let label := period.label
  Work.log ⟨.info, s!"User {user} started {label} premium checkout for product {product}"⟩
  return { token, amount := period.amount, currency, description := period.description, product,
           period }

/-- Records a status that the provider reports of a payment. -/
def applyStatus (now : Instant) (product : Int64) (status : PremiumStatus) (code : UInt64) :
    PaymentWork PremiumState := do
  let period ← Work.ofExcept (knownPeriod code)
  Work.query (.update ⟨product, none, .payment status period now⟩)

/-- A request of a user or of the payment provider. -/
inductive PaymentCall where
  | checkout (user product : Int64) (code : UInt64)
  | apply (product : Int64) (status : PremiumStatus) (code : UInt64)
  | token (user product : Int64) (code : UInt64)
  deriving DecidableEq, Repr

/-- What a call returns. -/
inductive PaymentAnswer where
  | request (r : PaymentRequest)
  | state (s : PremiumState)
  | token (t : String)
  deriving DecidableEq, Repr

/-- The work of a call, with the clock at `now`. -/
def PaymentCall.work (now : Instant) : PaymentCall → PaymentWork PaymentAnswer
  | checkout user product code => .request <$> Marketplace.checkout now user product code
  | apply product status code => .state <$> applyStatus now product status code
  | token user product code => .token <$> paymentToken ⟨user, product, code⟩

/-! ## The desk -/

/-- Promotions and the keys handed out for them. `σ` is where the promotions are kept. -/
structure PaymentDesk (σ : Type) where
  promotions : σ
  tokens : TokenCache

namespace PaymentDesk

variable {σ : Type}

/-- Answers one question, with a way to change the promotions and a supply of keys. -/
def answer (update : PremiumUpdate → σ → Outcome σ PaymentError PremiumState)
    (supply : Nat → String) :
    {β : Type} → PaymentQuery β → PaymentDesk σ → Outcome (PaymentDesk σ) PaymentError β
  | _, .update u, d =>
    let o := update u d.promotions
    ⟨o.result, { d with promotions := o.state }, o.log⟩
  | _, .token key, d =>
    let (issued, tokens) := d.tokens.issue supply key
    .ok issued { d with tokens }

end PaymentDesk

/-- One call on promotions in memory, with the clock at `now`. -/
def PaymentDesk.perform (supply : Nat → String) (now : Instant) (call : PaymentCall)
    (d : PaymentDesk Showcase) : Outcome (PaymentDesk Showcase) PaymentError PaymentAnswer :=
  (call.work now).run (PaymentDesk.answer Showcase.update supply) d

end Marketplace
