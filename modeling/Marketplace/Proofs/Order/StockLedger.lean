import Marketplace.Proofs.Order.History

/-!
# What the stock loses, the sold orders hold

`Ledger.sold l id` adds up the counts of all orders of a product beyond the basket, as unbounded
integers. `Ledger.Balanced` relates two ledgers: the stock of the product has fallen by what `sold`
has grown. Each effect of a call is balanced (`Effect.balanced`), balances compose, and so does the
run of any calls (`stock_ledger`).

An order's count enters the sum when it leaves the basket, and `Balanced.kept` says that it stays
there, so it is taken from the stock exactly once.
-/

namespace Marketplace

/-- How many pieces of the product `id` are sold by an order. -/
def StoredOrder.soldOf (id : ProductId) (o : StoredOrder) : Int :=
  if o.product = id ∧ o.hasLeftBasket then o.count.toInt else 0

theorem StoredOrder.hasLeftBasket_eq_false {o : StoredOrder} (h : o.isInBasket) :
    o.hasLeftBasket = false := by
  have hs : o.status = OrderStatus.inBasket.code := by simpa [isInBasket] using h
  simp only [hasLeftBasket, hs]
  decide

theorem StoredOrder.hasLeftBasket_fresh {id : OrderId} {owner : UserId} {product : ProductId}
    {count : Int32} {now : Instant} : (fresh id owner product count now).hasLeftBasket = false :=
  hasLeftBasket_eq_false isInBasket_fresh

/-- A status beyond another one is beyond the basket. -/
theorem StoredOrder.hasLeftBasket_of_lt {o : StoredOrder} {s : OrderStatus} (h : s.code < o.status) :
    o.hasLeftBasket := by
  have hb : OrderStatus.inBasket.code ≤ s.code := by cases s <;> decide
  simpa [hasLeftBasket] using Int16.lt_of_le_of_lt hb h

theorem StoredOrder.soldOf_eq_zero {o : StoredOrder} (h : o.hasLeftBasket = false)
    (id : ProductId) : o.soldOf id = 0 := by
  simp [soldOf, h]

namespace Ledger

/-- How many pieces of a product the orders beyond the basket hold. -/
def sold (l : Ledger) (id : ProductId) : Int := l.orders.sum (·.soldOf id)

/-- An order beyond the basket holds `count` pieces of the product. -/
def HasSold (l : Ledger) (id : ProductId) (order : OrderId) (count : Int32) : Prop :=
  ∃ o, l.orders.get? order = some o ∧ o.product = id ∧ o.hasLeftBasket ∧ o.count = count

/-- What happens to a product and its sold orders between two ledgers. -/
structure Balanced (id : ProductId) (l l' : Ledger) : Prop where
  /-- A product stays, with all but its stock, and the stock has gone into sold orders. -/
  present : ∀ {p}, l.products.get? id = some p → ∃ rest : Int32,
    l'.products.get? id = some { p with available := rest } ∧
      p.available.toInt - rest.toInt = l'.sold id - l.sold id
  /-- No order of a missing product is sold. -/
  absent : l.products.get? id = none → l'.products.get? id = none ∧
    ∀ order count, l'.HasSold id order count → l.HasSold id order count
  /-- A sold order stays sold, with its count. -/
  kept : ∀ order count, l.HasSold id order count → l'.HasSold id order count

/-- The ledger after some calls, each with its reading of the clock. -/
def serve (l : Ledger) (calls : List (Instant × OrderCall)) : Ledger :=
  calls.foldl (fun l c => (l.perform c.1 c.2).state) l

variable {now : Instant} {user : UserId} {target : OrderStatus} {l l' l'' : Ledger}
  {id : ProductId} {order : OrderId} {o o' : StoredOrder} {call : OrderCall}
  {r : Except OrderError OrderAnswer}

theorem Balanced.refl (id : ProductId) (l : Ledger) : Balanced id l l where
  present hp := ⟨_, hp, by omega⟩
  absent hn := ⟨hn, fun _ _ h => h⟩
  kept _ _ h := h

theorem Balanced.trans (h : Balanced id l l') (h' : Balanced id l' l'') : Balanced id l l'' where
  present hp := by
    obtain ⟨rest, hp', hd⟩ := h.present hp
    obtain ⟨rest', hp'', hd'⟩ := h'.present hp'
    exact ⟨rest', hp'', by simp only at hd'; omega⟩
  absent hn := by
    obtain ⟨hn', hs⟩ := h.absent hn
    obtain ⟨hn'', hs'⟩ := h'.absent hn'
    exact ⟨hn'', fun order count hh => hs order count (hs' order count hh)⟩
  kept order count hh := h'.kept order count (h.kept order count hh)

/-- Where no product changes and the sold orders are the same, all is balanced. -/
theorem Balanced.of_eq (hp : l'.products = l.products) (hs : l'.sold id = l.sold id)
    (hh : ∀ order count, l'.HasSold id order count ↔ l.HasSold id order count) :
    Balanced id l l' where
  present hf := ⟨_, hp ▸ hf, by omega⟩
  absent hn := ⟨hp ▸ hn, fun order count h => (hh order count).mp h⟩
  kept order count h := (hh order count).mpr h

/-! ## One order changes -/

theorem hasSold_iff (ho : l.orders.get? order = some o) {count : Int32} :
    l.HasSold id order count ↔ o.product = id ∧ o.hasLeftBasket ∧ o.count = count := by
  simp [HasSold, ho]

theorem hasSold_congr (h : l'.orders.get? order = l.orders.get? order) {count : Int32} :
    l'.HasSold id order count ↔ l.HasSold id order count := by
  rw [HasSold, h, HasSold]

theorem sold_storeOrder (id : ProductId) (o' : StoredOrder) (ho : l.orders.get? order = some o) :
    (l.storeOrder order o').sold id + o.soldOf id = l.sold id + o'.soldOf id := by
  have := l.orders.sum_insert (·.soldOf id) order o'
  rw [ho] at this
  exact this

/-- A write that does not bring an order out of the basket is balanced, if it leaves the counts of
sold orders alone. -/
theorem balanced_storeOrder (ho : l.orders.get? order = some o) (hp : o'.product = o.product)
    (hb : o'.hasLeftBasket = o.hasLeftBasket) (hc : o.hasLeftBasket → o'.count = o.count) :
    Balanced id l (l.storeOrder order o') := by
  refine .of_eq rfl ?_ fun k count => ?_
  · have hsold : o'.soldOf id = o.soldOf id := by
      unfold StoredOrder.soldOf
      rw [hp, hb]
      by_cases h : o.product = id ∧ o.hasLeftBasket
      · rw [if_pos h, if_pos h, hc h.2]
      · rw [if_neg h, if_neg h]
    have := sold_storeOrder id o' ho
    omega
  · by_cases hk : order = k
    · subst hk
      rw [hasSold_iff get?_storeOrder_self, hasSold_iff ho, hp, hb]
      constructor
      · rintro ⟨h, hl, hn⟩
        exact ⟨h, hl, hc hl ▸ hn⟩
      · rintro ⟨h, hl, hn⟩
        exact ⟨h, hl, hc hl ▸ hn⟩
    · exact hasSold_congr (get?_storeOrder_ne hk)

theorem balanced_addOrder (hw : l.WellFormed) (free : l.lastOrder ≠ Int64.maxValue)
    {product : ProductId} {count : Int32} :
    Balanced id l (l.addOrder now user product count) := by
  have hnone := hw.get?_lastOrder_succ free
  refine .of_eq rfl ?_ fun k count' => ?_
  · have := l.orders.sum_insert (·.soldOf id) (l.lastOrder + 1)
      (.fresh (l.lastOrder + 1) user product count now)
    rw [hnone, StoredOrder.soldOf_eq_zero StoredOrder.hasLeftBasket_fresh] at this
    simpa [sold, addOrder] using this
  · by_cases hk : l.lastOrder + 1 = k
    · subst hk
      rw [hasSold_iff get?_addOrder_self, StoredOrder.hasLeftBasket_fresh]
      simp [HasSold, hnone]
    · exact hasSold_congr (get?_addOrder_ne hk)

theorem balanced_dropOrder (ho : l.orders.get? order = some o) (hb : o.isInBasket) :
    Balanced id l (l.dropOrder order) := by
  have hb := StoredOrder.hasLeftBasket_eq_false hb
  refine .of_eq rfl ?_ fun k count => ?_
  · have := l.orders.sum_erase (·.soldOf id) order
    rw [ho] at this
    simp only [Option.elim, StoredOrder.soldOf_eq_zero hb] at this
    simpa [sold, dropOrder] using this
  · by_cases hk : order = k
    · subst hk
      rw [hasSold_iff ho, hb]
      simp [HasSold, get?_dropOrder_self]
    · exact hasSold_congr (get?_dropOrder_ne hk)

/-! ## An order leaves the basket -/

/-- Pieces that are there can be taken without overflow. -/
theorem toInt_sub_of_le {a b : Int32} (hpos : 0 < b) (hle : b ≤ a) :
    (a - b).toInt = a.toInt - b.toInt := by
  have hzero : (0 : Int32).toInt = 0 := by decide
  have hpos := Int32.lt_iff_toInt_lt.mp hpos
  have hle := Int32.le_iff_toInt_le.mp hle
  have hlt := a.toInt_lt
  rw [Int32.toInt_sub]
  apply Int.bmod_eq_of_le <;> omega

theorem balanced_leave (hw : l.WellFormed) {p : Product} (ho : l.orders.get? order = some o)
    (hb : o.isInBasket) (hp : l.products.get? o.product = some p) (henough : o.count ≤ p.available)
    (ho' : o'.product = o.product) (hl' : o'.hasLeftBasket) (hc' : o'.count = o.count) :
    Balanced id l ((l.takeStock o.product p o.count).storeOrder order o') := by
  have hb := StoredOrder.hasLeftBasket_eq_false hb
  have hother {k : OrderId} (hk : order ≠ k) (count : Int32) :
      ((l.takeStock o.product p o.count).storeOrder order o').HasSold id k count ↔
        l.HasSold id k count :=
    hasSold_congr (get?_storeOrder_ne hk)
  have hsold : ((l.takeStock o.product p o.count).storeOrder order o').sold id
      = l.sold id + o'.soldOf id := by
    have := sold_storeOrder (l := l.takeStock o.product p o.count) id o' ho
    rw [StoredOrder.soldOf_eq_zero hb, Int.add_zero] at this
    exact this
  refine ⟨fun {q} hq => ?_, fun hn => ?_, fun k count h => ?_⟩
  · rw [hsold]
    simp only [storeOrder, takeStock, Table.get?_insert]
    by_cases hid : o.product = id
    · -- Its own product: the pieces that the stock loses are those of the order.
      subst hid
      obtain rfl := Option.some.inj (hp.symm.trans hq)
      refine ⟨p.available - o.count, if_pos rfl, ?_⟩
      rw [toInt_sub_of_le (hw.orders ho).count_pos henough, StoredOrder.soldOf, if_pos ⟨ho', hl'⟩, hc']
      omega
    · refine ⟨q.available, by rw [if_neg hid, hq], ?_⟩
      rw [StoredOrder.soldOf, if_neg (fun h => hid (ho' ▸ h.1))]
      omega
  · have hid : o.product ≠ id := by
      rintro rfl
      rw [hn] at hp
      cases hp
    refine ⟨by simp [storeOrder, takeStock, Table.get?_insert, hid, hn], fun k count h => ?_⟩
    by_cases hk : order = k
    · subst hk
      exact (hid (ho' ▸ ((hasSold_iff get?_storeOrder_self).mp h).1)).elim
    · exact (hother hk count).mp h
  · by_cases hk : order = k
    · subst hk
      have := ((hasSold_iff ho).mp h).2.1
      rw [hb] at this
      cases this
    · exact (hother hk count).mpr h

/-! ## Calls and runs -/

theorem Moved.balanced (h : Moved now user target order l l') (hw : l.WellFormed) :
    Balanced id l l' := by
  cases h with
  | @onward o source found _ status left forward =>
    have hl : o.hasLeftBasket := by
      rw [StoredOrder.hasLeftBasket, status]
      cases source <;> first | exact (left rfl).elim | decide
    have hl' : (o.moved target now).hasLeftBasket := StoredOrder.hasLeftBasket_of_lt forward
    exact balanced_storeOrder found rfl (hl'.trans hl.symm) fun _ => rfl
  | @leave o p found _ status forward product enough =>
    exact balanced_leave hw found (by simp [StoredOrder.isInBasket, status]) product enough rfl
      (StoredOrder.hasLeftBasket_of_lt forward) rfl

theorem Bought.balanced {ids : List OrderId} (h : Bought now user ids l l') (hw : l.WellFormed) :
    Balanced id l l' := by
  induction h with
  | nil => exact .refl _ _
  | cons first _ ih => exact (first.balanced hw).trans (ih (hw.moved first))

theorem Effect.balanced (h : Effect now l call r l') (hw : l.WellFormed) : Balanced id l l' := by
  cases h with
  | refused | listed => exact .refl _ _
  | added _ _ _ _ free => exact balanced_addOrder hw free
  | recounted _ found _ inBasket =>
    have hb := StoredOrder.hasLeftBasket_eq_false inBasket
    exact balanced_storeOrder found rfl rfl fun h => by rw [hb] at h; cases h
  | moved move => exact move.balanced hw
  | bought _ moves => exact moves.balanced hw
  | deleted found _ inBasket => exact balanced_dropOrder found inBasket

theorem balanced_serve (hw : l.WellFormed) (id : ProductId) (calls : List (Instant × OrderCall)) :
    Balanced id l (l.serve calls) := by
  induction calls generalizing l with
  | nil => exact .refl _ _
  | cons c calls ih =>
    have he := perform_effect c.1 c.2 l
    exact (he.balanced hw).trans (ih (hw.effect he))

/-- **The stock ledger.** From a ledger that can arise, calls of any kind, refused or not, keep every
product and lower its stock by exactly what the sum of its sold orders grows. -/
theorem stock_ledger (hl : l.Reachable) (calls : List (Instant × OrderCall)) (id : ProductId) :
    Balanced id l (l.serve calls) :=
  balanced_serve hl.wellFormed id calls

/-- One order is paid, and the other one is bought with the basket. -/
def kettleSales : List (Instant × OrderCall) :=
  [(.epoch, .setStatus 7 1 .paid), (.epoch, .buy 7), (.epoch, .setStatus 7 1 .closed)]

theorem stock_ledger_shop :
    shop.Reachable ∧ (shop.serve kettleSales).sold 1 = 7 ∧
      Balanced 1 shop (shop.serve kettleSales) :=
  ⟨shop_reachable, by decide, stock_ledger shop_reachable kettleSales 1⟩

end Ledger

end Marketplace
