import Marketplace.Json.Record
import Marketplace.Order.Basic

/-!
# Orders in JSON

The codecs of what the order service takes and gives, each with its members in their order on the
wire.
-/

namespace Marketplace

open Json

def OrderStatus.codec : Codec OrderStatus := .choice all name

def Product.codec : Codec Product :=
  .record
    (.cons "id" .int64 <| .cons "saler_id" .int64 <| .cons "title" .string <|
      .cons "price" .price <| .cons "city" .string <| .cons "available_count" .int32 <|
      .cons "delivery" .bool <| .cons "safe_deal" .bool <| .cons "is_active" .bool .nil)
    (fun p => (p.id, p.offer.saler, p.offer.title, p.offer.price, p.offer.city, p.available,
      p.offer.delivery, p.offer.safeDeal, p.isActive, ()))
    (fun (id, saler, title, price, city, available, delivery, safeDeal, isActive, ()) =>
      ⟨id, ⟨saler, title, price, city, delivery, safeDeal⟩, available, isActive⟩)

def BasketEntry.codec : Codec BasketEntry :=
  .record
    (.cons "id" .int64 <| .cons "owner_id" .int64 <| .cons "product_id" .int64 <|
      .cons "saler_id" .int64 <| .cons "title" .string <| .cons "price" .price <|
      .cons "city" .string <| .cons "count" .int32 <| .cons "available_count" .int32 <|
      .cons "delivery" .bool <| .cons "safe_deal" .bool <|
      .cons "image_url" (.option .string) <| .cons "in_favourites" .bool <|
      .cons "created_at" .instant .nil)
    (fun e => (e.id, e.owner, e.product, e.offer.saler, e.offer.title, e.offer.price, e.offer.city,
      e.count, e.available, e.offer.delivery, e.offer.safeDeal, e.image, e.isFavourite,
      e.createdAt, ()))
    (fun (id, owner, product, saler, title, price, city, count, available, delivery, safeDeal,
        image, isFavourite, createdAt, ()) =>
      { id, owner, product, count, available, image, isFavourite, createdAt,
        offer := ⟨saler, title, price, city, delivery, safeDeal⟩ })

def OrderView.codec : Codec OrderView :=
  .record
    (.cons "id" .int64 <| .cons "owner_id" .int64 <| .cons "product_id" .int64 <|
      .cons "saler_id" .int64 <| .cons "title" .string <| .cons "price" .price <|
      .cons "city" .string <| .cons "count" .int32 <| .cons "status" OrderStatus.codec <|
      .cons "delivery" .bool <| .cons "safe_deal" .bool <|
      .cons "image_url" (.option .string) <| .cons "in_favourites" .bool <|
      .cons "created_at" .instant <| .cons "updated_at" .instant .nil)
    (fun o => (o.id, o.owner, o.product, o.offer.saler, o.offer.title, o.offer.price, o.offer.city,
      o.count, o.status, o.offer.delivery, o.offer.safeDeal, o.image, o.isFavourite, o.createdAt,
      o.updatedAt, ()))
    (fun (id, owner, product, saler, title, price, city, count, status, delivery, safeDeal, image,
        isFavourite, createdAt, updatedAt, ()) =>
      { id, owner, product, count, status, image, isFavourite, createdAt, updatedAt,
        offer := ⟨saler, title, price, city, delivery, safeDeal⟩ })

/-- How many orders a purchase moved. -/
structure Purchase where
  bought : UInt64
  deriving DecidableEq, Repr

def Purchase.codec : Codec Purchase :=
  .record (.cons "bought" .uint64 .nil) (fun p => (p.bought, ())) (fun (bought, ()) => ⟨bought⟩)

/-! ## Requests -/

/-- The body of a request that puts a product into the basket. -/
structure AddRequest where
  product : ProductId
  count : Int32
  deriving DecidableEq, Repr

def AddRequest.codec : Codec AddRequest :=
  .record (.cons "product_id" .int64 <| .cons "count" .int32 .nil)
    (fun r => (r.product, r.count, ())) (fun (product, count, ()) => ⟨product, count⟩)

/-- The body of a request that changes a count. -/
structure CountRequest where
  count : Int32
  deriving DecidableEq, Repr

def CountRequest.codec : Codec CountRequest :=
  .record (.cons "count" .int32 .nil) (fun r => (r.count, ())) (fun (count, ()) => ⟨count⟩)

/-- The body of a request that moves an order. -/
structure StatusRequest where
  status : OrderStatus
  deriving DecidableEq, Repr

def StatusRequest.codec : Codec StatusRequest :=
  .record (.cons "status" OrderStatus.codec .nil) (fun r => (r.status, ()))
    (fun (status, ()) => ⟨status⟩)

end Marketplace
