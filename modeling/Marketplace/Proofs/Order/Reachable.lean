import Marketplace.Proofs.Order.Effect
import Marketplace.Proofs.Table

/-!
# The ledgers that can arise

An `OrderEvent` is one step in the life of a ledger: a call of the order service, or a change of the
shop around it. A ledger is `Reachable` if a list of events leads to it from the empty one.

* `Ledger.WellFormed`: rows stand under their own identifiers, identifiers of orders have been
  given, counts are positive and statuses mean something.
* `Reachable.wellFormed`: every ledger that can arise is well-formed.
-/

namespace Marketplace

/-- One step in the life of a ledger. -/
inductive OrderEvent where
  /-- A call of the service, with the reading of the clock. -/
  | call (now : Instant) (call : OrderCall)
  | putProduct (p : Product)
  | removeProduct (id : ProductId)
  | addImage (id : ProductId) (url : String)
  | addFavourite (user : UserId) (id : ProductId)
  deriving DecidableEq, Repr

/-- An order that can stand under `id` when `last` is the identifier given last. -/
structure StoredOrder.WellFormed (last id : OrderId) (o : StoredOrder) : Prop where
  id_eq : o.id = id
  one_le_id : 1 ≤ id
  id_le : id ≤ last
  count_pos : 0 < o.count
  status : ∃ s : OrderStatus, o.status = s.code

namespace Ledger

/-- The ledger after an event. -/
def apply (l : Ledger) : OrderEvent → Ledger
  | .call now call => (l.perform now call).state
  | .putProduct p => l.putProduct p
  | .removeProduct id => l.removeProduct id
  | .addImage id url => l.addImage id url
  | .addFavourite user id => l.addFavourite user id

/-- The ledger after a list of events. -/
def replay (l : Ledger) (events : List OrderEvent) : Ledger := events.foldl apply l

/-- The ledger arises from the empty one. -/
def Reachable (l : Ledger) : Prop := ∃ events, empty.replay events = l

/-- What every ledger that can arise satisfies. -/
structure WellFormed (l : Ledger) : Prop where
  last_nonneg : 0 ≤ l.lastOrder
  products : ∀ {id p}, l.products.get? id = some p → p.id = id
  orders : ∀ {id o}, l.orders.get? id = some o → o.WellFormed l.lastOrder id

variable {l l' : Ledger} {now : Instant} {user : UserId}

@[simp] theorem replay_nil (l : Ledger) : l.replay [] = l := rfl

@[simp] theorem replay_cons (l : Ledger) (e : OrderEvent) (es : List OrderEvent) :
    l.replay (e :: es) = (l.apply e).replay es := rfl

theorem replay_append (l : Ledger) (es es' : List OrderEvent) :
    l.replay (es ++ es') = (l.replay es).replay es' := List.foldl_append

theorem Reachable.replay (h : l.Reachable) (events : List OrderEvent) : (l.replay events).Reachable := by
  obtain ⟨before, rfl⟩ := h
  exact ⟨before ++ events, replay_append _ _ _⟩

theorem Reachable.apply (h : l.Reachable) (e : OrderEvent) : (l.apply e).Reachable := h.replay [e]

/-! ## Each write keeps a ledger well-formed -/

/-- The next identifier is one more, as no identifier comes round again. -/
theorem toInt_lastOrder_succ (h : l.lastOrder ≠ Int64.maxValue) :
    (l.lastOrder + 1).toInt = l.lastOrder.toInt + 1 := by
  have hne : l.lastOrder.toInt ≠ Int64.maxValue.toInt := fun e => h (Int64.toInt_inj.mp e)
  have hmax : Int64.maxValue.toInt = 2 ^ 63 - 1 := by decide
  have hone : (1 : Int64).toInt = 1 := by decide
  have hle := l.lastOrder.toInt_lt
  have hge := l.lastOrder.le_toInt
  rw [Int64.toInt_add, hone]
  apply Int.bmod_eq_of_le <;> omega

theorem lastOrder_lt_succ (h : l.lastOrder ≠ Int64.maxValue) : l.lastOrder < l.lastOrder + 1 := by
  rw [Int64.lt_iff_toInt_lt, toInt_lastOrder_succ h]
  omega

/-- No order stands under the next identifier. -/
theorem WellFormed.get?_lastOrder_succ (h : l.WellFormed) (free : l.lastOrder ≠ Int64.maxValue) :
    l.orders.get? (l.lastOrder + 1) = none := by
  cases ho : l.orders.get? (l.lastOrder + 1) with
  | none => rfl
  | some o => exact (Int64.not_le.mpr (lastOrder_lt_succ free) (h.orders ho).id_le).elim

theorem WellFormed.empty : Ledger.empty.WellFormed where
  last_nonneg := by decide
  products h := by cases h
  orders h := by cases h

theorem WellFormed.storeOrder (h : l.WellFormed) {id : OrderId} {o : StoredOrder}
    (ho : o.WellFormed l.lastOrder id) : (l.storeOrder id o).WellFormed where
  last_nonneg := h.last_nonneg
  products := h.products
  orders hf := by
    rcases Table.get?_insert_eq_some_iff.mp hf with ⟨rfl, rfl⟩ | ⟨-, hf⟩
    · exact ho
    · exact h.orders hf

theorem WellFormed.takeStock (h : l.WellFormed) {id : ProductId} {p : Product}
    (hp : l.products.get? id = some p) (count : Int32) : (l.takeStock id p count).WellFormed where
  last_nonneg := h.last_nonneg
  products hf := by
    rcases Table.get?_insert_eq_some_iff.mp hf with ⟨rfl, rfl⟩ | ⟨-, hf⟩
    · exact (h.products hp : p.id = id)
    · exact h.products hf
  orders := h.orders

theorem WellFormed.dropOrder (h : l.WellFormed) (id : OrderId) : (l.dropOrder id).WellFormed where
  last_nonneg := h.last_nonneg
  products := h.products
  orders hf := h.orders (Table.get?_erase_eq_some_iff.mp hf).2

theorem WellFormed.addOrder (h : l.WellFormed) (free : l.lastOrder ≠ Int64.maxValue)
    {id : ProductId} {count : Int32} (positive : 0 < count) :
    (l.addOrder now user id count).WellFormed := by
  have hsucc := toInt_lastOrder_succ free
  have hlast := Int64.le_iff_toInt_le.mp h.last_nonneg
  have hzero : (0 : Int64).toInt = 0 := by decide
  have hone : (1 : Int64).toInt = 1 := by decide
  have hle := Int64.le_of_lt (lastOrder_lt_succ free)
  refine ⟨Int64.le_trans h.last_nonneg hle, h.products, fun hf => ?_⟩
  rcases Table.get?_insert_eq_some_iff.mp hf with ⟨rfl, rfl⟩ | ⟨-, hf⟩
  · exact ⟨rfl, by rw [Int64.le_iff_toInt_le]; omega, Int64.le_refl _, positive, .inBasket, rfl⟩
  · have ho := h.orders hf
    exact ⟨ho.id_eq, ho.one_le_id, Int64.le_trans ho.id_le hle, ho.count_pos, ho.status⟩

theorem WellFormed.moved (h : l.WellFormed) {target : OrderStatus} {id : OrderId}
    (hm : Moved now user target id l l') : l'.WellFormed := by
  have key {o : StoredOrder} (ho : l.orders.get? id = some o) :
      (o.moved target now).WellFormed l.lastOrder id :=
    have := h.orders ho
    ⟨this.id_eq, this.one_le_id, this.id_le, this.count_pos, target, rfl⟩
  cases hm with
  | onward found => exact h.storeOrder (key found)
  | leave found _ _ _ product => exact (h.takeStock product _).storeOrder (key found)

theorem WellFormed.bought (h : l.WellFormed) {ids : List OrderId} (hb : Bought now user ids l l') :
    l'.WellFormed := by
  induction hb with
  | nil => exact h
  | cons first _ ih => exact ih (h.moved first)

/-! ## Every ledger that can arise is well-formed -/

theorem WellFormed.effect (h : l.WellFormed) {call : OrderCall} {r : Except OrderError OrderAnswer}
    (he : Effect now l call r l') : l'.WellFormed := by
  cases he with
  | refused | listed => exact h
  | added positive _ _ _ free => exact h.addOrder free positive
  | recounted positive found =>
    have := h.orders found
    exact h.storeOrder ⟨this.id_eq, this.one_le_id, this.id_le, positive, this.status⟩
  | moved move => exact h.moved move
  | bought _ moves => exact h.bought moves
  | deleted => exact h.dropOrder _

theorem WellFormed.apply (h : l.WellFormed) (e : OrderEvent) : (l.apply e).WellFormed := by
  cases e with
  | call now call => exact h.effect (perform_effect now call l)
  | putProduct p =>
    refine ⟨h.last_nonneg, fun hf => ?_, h.orders⟩
    rcases Table.get?_insert_eq_some_iff.mp hf with ⟨rfl, rfl⟩ | ⟨-, hf⟩
    · rfl
    · exact h.products hf
  | removeProduct id =>
    exact ⟨h.last_nonneg, fun hf => h.products (Table.get?_erase_eq_some_iff.mp hf).2, h.orders⟩
  | addImage => exact ⟨h.last_nonneg, h.products, h.orders⟩
  | addFavourite => exact ⟨h.last_nonneg, h.products, h.orders⟩

theorem WellFormed.replay (h : l.WellFormed) (events : List OrderEvent) :
    (l.replay events).WellFormed := by
  induction events generalizing l with
  | nil => exact h
  | cons e events ih => exact ih (h.apply e)

/-- **The invariant of ledgers.** -/
theorem Reachable.wellFormed (h : l.Reachable) : l.WellFormed := by
  obtain ⟨events, rfl⟩ := h
  exact WellFormed.empty.replay events

/-! ## A small shop -/

/-- Ten kettles for sale. -/
def kettles : Product := ⟨1, ⟨8, "Kettle", .ofInt 20, "Perm", true, false⟩, 10, true⟩

/-- A buyer has put four kettles in the basket, and then three more. -/
def shop : Ledger :=
  empty.replay [.putProduct kettles, .call .epoch (.add 7 1 4), .call .epoch (.add 7 1 3)]

theorem shop_reachable : shop.Reachable := ⟨_, rfl⟩

end Ledger

end Marketplace
