import Marketplace.Http.Router
import Marketplace.Proofs.Wire

/-!
# Bodies of requests

A body is any bytes. Whatever a service asks for in a body is an object, and is read from the bytes
it is written as (`bodies_readFront`). What stands behind the object does not matter, also if it is
no text.
-/

namespace Marketplace

open Json Codec Http
open Text (utf8 byteChar)

variable {α β σ : Type} {c : Codec α} {a : α} {rest : List UInt8}

/-- Each value is read from the bytes of its text, whatever bytes follow. -/
def Json.Codec.ReadsFront (c : Codec α) : Prop :=
  ∀ (a : α) (rest : List UInt8), c.decodeFront? (utf8 (c.write a) ++ rest) = .ok a

theorem readsFront_record {m : Members β σ} {fields : α → β} {make : β → α} {norm : β → β}
    (h : m.Lawful norm) (hmake : ∀ a, make (norm (fields a)) = a) :
    (record m fields make).ReadsFront := by
  intro a rest
  have hread : (record m fields make).read
      ((utf8 ((record m fields make).write a) ++ rest).map byteChar)
        = .ok (a, rest.map byteChar) := by
    rw [List.map_append]
    exact (read_record h a _).trans (by rw [hmake])
  rw [decodeFront?, hread]
  rfl

/-- A request with such a body is read. -/
theorem decodeBody_of_readsFront {request : Request} (h : c.ReadsFront)
    (hjson : (request.header? "content-type").any isJson)
    (hsize : request.body.length ≤ maxBodySize) (hbody : request.body = utf8 (c.write a) ++ rest) :
    decodeBody c request = .ok a := by
  rw [decodeBody, if_neg (not_not_intro hjson), if_neg (Nat.not_lt.mpr hsize), hbody, h a rest]

/-- The bodies that the services ask for. -/
theorem bodies_readFront :
    AddRequest.codec.ReadsFront ∧ CountRequest.codec.ReadsFront ∧ StatusRequest.codec.ReadsFront ∧
      CheckoutRequest.codec.ReadsFront ∧ ReportRequest.codec.ReadsFront :=
  ⟨readsFront_record (.cons (by decide) lawful_int64 <| .cons (by decide) lawful_int32 .nil)
      fun _ => rfl,
    readsFront_record (.cons (by decide) lawful_int32 .nil) fun _ => rfl,
    readsFront_record (.cons (by decide) OrderStatus.lawful_codec .nil) fun _ => rfl,
    readsFront_record (.cons (by decide) lawful_int64 <| .cons (by decide) lawful_uint64 .nil)
      fun _ => rfl,
    readsFront_record
      (.cons (by decide) PremiumStatus.lawful_codec <| .cons (by decide) lawful_uint64 .nil)
      fun _ => rfl⟩

/-- The byte behind this object is no text. -/
example : AddRequest.codec.decodeFront?
    (utf8 "\x7b\"product_id\":1,\"count\":2\x7d".toList ++ [0xFF]) = .ok ⟨1, 2⟩ := by
  decide +kernel

end Marketplace
