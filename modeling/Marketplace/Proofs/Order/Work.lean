import Marketplace.Order.Basket
import Marketplace.Order.Ledger
import Marketplace.Order.Progress
import Marketplace.Proofs.Work

/-!
# What the work of the order service does to a ledger

For each piece of work that writes, `*_returns` says exactly when its run on a ledger succeeds and
which ledger it leaves.

* `storeOrder`, `dropOrder`, `takeStock`, `addOrder`: the writes.
* `Ledger.Moved`: one order moves forward, and takes its pieces from the stock if it leaves the
  basket. `moveOrder_returns` is its lemma.
* `Ledger.Bought`: the orders of a basket move one after the other (`buyBasket_returns`).
* `addToBasket_returns`, `setCount_returns`, `deleteFromBasket_returns`: the rest of the basket.
-/

namespace Marketplace

/-- The order after its move to `target`. -/
def StoredOrder.moved (o : StoredOrder) (target : OrderStatus) (now : Instant) : StoredOrder :=
  { o with status := target.code, updatedAt := now }

/-- The order with another count. -/
def StoredOrder.recounted (o : StoredOrder) (count : Int32) (now : Instant) : StoredOrder :=
  { o with count, updatedAt := now }

/-- A new order in the basket. -/
def StoredOrder.fresh (id : OrderId) (owner : UserId) (product : ProductId) (count : Int32)
    (now : Instant) : StoredOrder :=
  ⟨id, owner, product, count, OrderStatus.inBasket.code, now, now⟩

theorem StoredOrder.isInBasket_fresh {id : OrderId} {owner : UserId} {product : ProductId}
    {count : Int32} {now : Instant} : (fresh id owner product count now).isInBasket := by
  simp [isInBasket, fresh]

namespace Ledger

/-! ## Writes -/

def storeOrder (l : Ledger) (id : OrderId) (o : StoredOrder) : Ledger :=
  { l with orders := l.orders.insert id o }

def dropOrder (l : Ledger) (id : OrderId) : Ledger := { l with orders := l.orders.erase id }

/-- `p`, the product under `id`, with `count` pieces less. -/
def takeStock (l : Ledger) (id : ProductId) (p : Product) (count : Int32) : Ledger :=
  { l with products := l.products.insert id { p with available := p.available - count } }

/-- A new order in the basket, under the next identifier. -/
def addOrder (l : Ledger) (now : Instant) (owner : UserId) (id : ProductId) (count : Int32) :
    Ledger :=
  let order := l.lastOrder + 1
  { l with
    orders := l.orders.insert order (.fresh order owner id count now)
    lastOrder := order }

/-- The orders in a basket, by increasing identifier. -/
def basketIds (l : Ledger) (owner : UserId) : List OrderId :=
  (l.orders.values.filter fun o => o.owner = owner ∧ o.isInBasket).map (·.id)

/-- What the buyer sees of an order of `p` that is about to be added. -/
def newEntry (l : Ledger) (now : Instant) (owner : UserId) (id : ProductId) (count : Int32)
    (p : Product) : BasketEntry :=
  { id := l.lastOrder + 1, owner, product := p.id, count, offer := p.offer,
    available := p.available, image := (l.firstImages [id]).get? id,
    isFavourite := l.favourites.contains (owner, id), createdAt := now }

section Rows

variable {l : Ledger} {id k : OrderId} {o : StoredOrder} {now : Instant} {owner : UserId}
  {product : ProductId} {count : Int32}

theorem get?_storeOrder_self : (l.storeOrder id o).orders.get? id = some o := by
  rw [storeOrder, Table.get?_insert, if_pos rfl]

theorem get?_storeOrder_ne (h : id ≠ k) :
    (l.storeOrder id o).orders.get? k = l.orders.get? k := by
  rw [storeOrder, Table.get?_insert, if_neg h]

theorem get?_addOrder_self : (l.addOrder now owner product count).orders.get? (l.lastOrder + 1)
    = some (.fresh (l.lastOrder + 1) owner product count now) := by
  rw [addOrder, Table.get?_insert, if_pos rfl]

theorem get?_addOrder_ne (h : l.lastOrder + 1 ≠ k) :
    (l.addOrder now owner product count).orders.get? k = l.orders.get? k := by
  rw [addOrder, Table.get?_insert, if_neg h]

theorem get?_dropOrder_self : (l.dropOrder id).orders.get? id = none := by
  rw [dropOrder, Table.get?_erase, if_pos rfl]

theorem get?_dropOrder_ne (h : id ≠ k) : (l.dropOrder id).orders.get? k = l.orders.get? k := by
  rw [dropOrder, Table.get?_erase, if_neg h]

end Rows

/-! ## Moves -/

/-- One order of `user` moves forward to `target`. -/
inductive Moved (now : Instant) (user : UserId) (target : OrderStatus) (id : OrderId)
    (l : Ledger) : Ledger → Prop where
  /-- It has left the basket before. -/
  | onward {o : StoredOrder} {source : OrderStatus} (found : l.orders.get? id = some o)
      (owner : o.owner = user) (status : o.status = source.code) (left : source ≠ .inBasket)
      (forward : source < target) :
      Moved now user target id l (l.storeOrder id (o.moved target now))
  /-- It leaves the basket and takes its pieces from the stock. -/
  | leave {o : StoredOrder} {p : Product} (found : l.orders.get? id = some o)
      (owner : o.owner = user) (status : o.status = OrderStatus.inBasket.code)
      (forward : .inBasket < target) (product : l.products.get? o.product = some p)
      (enough : o.count ≤ p.available) :
      Moved now user target id l
        ((l.takeStock o.product p o.count).storeOrder id (o.moved target now))

/-- The listed orders of `user` move into processing, one after the other. -/
inductive Bought (now : Instant) (user : UserId) : List OrderId → Ledger → Ledger → Prop where
  | nil {l : Ledger} : Bought now user [] l l
  | cons {id : OrderId} {ids : List OrderId} {l l₁ l₂ : Ledger}
      (first : Moved now user .inProcessing id l l₁) (rest : Bought now user ids l₁ l₂) :
      Bought now user (id :: ids) l l₂

/-! ## What the store answers -/

section Answers

variable {now : Instant} {l l' : Ledger}

theorem lockProduct_returns {id : ProductId} {r : Option Product} :
    (Work.query (.lockProduct id) : OrderWork _).Returns (answer now) l r l' ↔
      l.products.get? id = r ∧ l = l' := by
  simp [Work.query_returns, answer, Outcome.ok]

theorem lockOrder_returns {id : OrderId} {user : UserId} {held : LockedOrder} :
    (Work.query (.lockOrder id user) : OrderWork _).Returns (answer now) l (some held) l' ↔
      (∃ o, l.orders.get? id = some o ∧ o.owner = user ∧ o.status = held.status.code ∧
        o.count = held.count ∧ o.product = held.product) ∧ l = l' := by
  rw [Work.query_returns]
  simp only [answer]
  cases hf : (l.orders.get? id).filter (·.owner = user) with
  | none =>
    simp only [Outcome.ok, reduceCtorEq, false_and, Except.ok.injEq, false_iff, not_and]
    rintro ⟨o, ho, hu, -⟩
    rw [ho] at hf
    simp [hu] at hf
  | some o =>
    obtain ⟨ho, hu⟩ := Option.filter_eq_some_iff.mp hf
    cases hs : OrderStatus.ofCode? o.status with
    | error e =>
      simp only [hs, Outcome.error, reduceCtorEq, false_and, false_iff, not_and]
      rintro ⟨o', ho', -, hs', -⟩
      rw [ho] at ho'; cases ho'
      rw [hs', OrderStatus.ofCode?_code] at hs
      cases hs
    | ok status =>
      have hc := OrderStatus.code_of_ofCode? hs
      obtain ⟨s, c, q⟩ := held
      simp only [hs, Outcome.ok, Except.ok.injEq, Option.some.injEq, LockedOrder.mk.injEq]
      constructor
      · rintro ⟨⟨rfl, rfl, rfl⟩, rfl⟩
        exact ⟨⟨o, ho, by simpa using hu, hc.symm, rfl, rfl⟩, rfl⟩
      · rintro ⟨⟨o', ho', -, hs', hn, hp⟩, rfl⟩
        rw [ho] at ho'; cases ho'
        exact ⟨⟨OrderStatus.code_inj.mp (hc.trans hs'), hn, hp⟩, rfl⟩

/-- A guarded write changes one row if its guard picks one, and nothing else. -/
theorem guarded_returns {γ : Type} {q : OrderQuery Nat} {row : Option γ} {write : γ → Ledger}
    (h : answer now q l = row.elim (.ok 0 l) fun a => .ok 1 (write a)) {n : Nat} :
    (Work.query q : OrderWork _).Returns (answer now) l n l' ∧ n ≠ 0 ↔
      n = 1 ∧ ∃ a, row = some a ∧ write a = l' := by
  rw [Work.query_returns, h]
  cases row with
  | none => simp [Outcome.ok]; omega
  | some a =>
    simp only [Option.elim, Outcome.ok, Except.ok.injEq, Option.some.injEq, exists_eq_left']
    constructor
    · rintro ⟨⟨rfl, rfl⟩, -⟩
      exact ⟨rfl, rfl⟩
    · rintro ⟨rfl, rfl⟩
      exact ⟨⟨rfl, rfl⟩, by decide⟩

theorem answer_decrementStock (now : Instant) (id : ProductId) (count : Int32) (l : Ledger) :
    answer now (.decrementStock id count) l =
      ((l.products.get? id).filter (count ≤ ·.available)).elim (.ok 0 l)
        fun p => .ok 1 (l.takeStock id p count) := by
  simp only [answer]
  cases (l.products.get? id).filter (count ≤ ·.available) <;> rfl

theorem answer_writeStatus (now : Instant) (id : OrderId) (source target : OrderStatus)
    (l : Ledger) : answer now (.writeStatus id source target) l =
      ((l.orders.get? id).filter (·.status = source.code)).elim (.ok 0 l)
        fun o => .ok 1 (l.storeOrder id (o.moved target now)) := by
  simp only [answer]
  cases (l.orders.get? id).filter (·.status = source.code) <;> rfl

theorem answer_writeCount (now : Instant) (id : OrderId) (user : UserId) (count : Int32)
    (l : Ledger) : answer now (.writeCount id user count) l =
      (l.basketOrder? id user).elim (.ok 0 l)
        fun o => .ok 1 (l.storeOrder id (o.recounted count now)) := by
  simp only [answer]
  cases l.basketOrder? id user <;> rfl

theorem answer_deleteBasketOrder (now : Instant) (id : OrderId) (user : UserId) (l : Ledger) :
    answer now (.deleteBasketOrder id user) l =
      (l.basketOrder? id user).elim (.ok 0 l) fun _ => .ok 1 (l.dropOrder id) := by
  simp only [answer]
  cases l.basketOrder? id user <;> rfl

/-! ## What the work of a call returns -/

theorem commitStock_returns {id : ProductId} {count : Int32} {u : Unit} :
    (commitStock id count).Returns (answer now) l u l' ↔
      ∃ p, l.products.get? id = some p ∧ count ≤ p.available ∧ l.takeStock id p count = l' := by
  unfold commitStock
  rw [Work.bind_returns]
  have h := answer_decrementStock now id count l
  constructor
  · rintro ⟨n, s, hq, hr⟩
    obtain ⟨hn, rfl⟩ := Work.require_returns.mp hr
    obtain ⟨-, p, hp, hw⟩ := (guarded_returns h).mp ⟨hq, hn⟩
    obtain ⟨hp, hc⟩ := Option.filter_eq_some_iff.mp hp
    exact ⟨p, hp, by simpa using hc, hw⟩
  · rintro ⟨p, hp, hc, hw⟩
    have hf : (l.products.get? id).filter (count ≤ ·.available) = some p :=
      Option.filter_eq_some_iff.mpr ⟨hp, by simpa using hc⟩
    obtain ⟨hq, hn⟩ := (guarded_returns h (n := 1)).mpr ⟨rfl, p, hf, hw⟩
    exact ⟨1, l', hq, Work.require_returns.mpr ⟨hn, rfl⟩⟩

/-- The end of a move: the guarded write of the status. -/
theorem writeStatus_returns {id : OrderId} {source target : OrderStatus} {line : LogLine} {u : Unit} :
    (do
      let affected ← Work.query (.writeStatus id source target)
      Work.require (affected ≠ 0) (.noAffectedRows .statusUpdate)
      Work.log line : OrderWork Unit).Returns (answer now) l u l' ↔
      ∃ o, l.orders.get? id = some o ∧ o.status = source.code ∧
        l.storeOrder id (o.moved target now) = l' := by
  have h := answer_writeStatus now id source target l
  rw [Work.bind_returns]
  constructor
  · rintro ⟨n, s, hq, hr⟩
    obtain ⟨_, s', hr, hl⟩ := Work.bind_returns.mp hr
    obtain ⟨hn, rfl⟩ := Work.require_returns.mp hr
    obtain rfl := Work.log_returns.mp hl
    obtain ⟨-, o, ho, hw⟩ := (guarded_returns h).mp ⟨hq, hn⟩
    obtain ⟨ho, hs⟩ := Option.filter_eq_some_iff.mp ho
    exact ⟨o, ho, by simpa using hs, hw⟩
  · rintro ⟨o, ho, hs, hw⟩
    have hf : (l.orders.get? id).filter (·.status = source.code) = some o :=
      Option.filter_eq_some_iff.mpr ⟨ho, by simpa using hs⟩
    obtain ⟨hq, hn⟩ := (guarded_returns h (n := 1)).mpr ⟨rfl, o, hf, hw⟩
    exact ⟨1, l', hq, Work.bind_returns.mpr
      ⟨(), l', Work.require_returns.mpr ⟨hn, rfl⟩, Work.log_returns.mpr rfl⟩⟩

/-- **A move.** Moving an order forward succeeds exactly as `Moved` says. -/
theorem moveOrder_returns {id : OrderId} {user : UserId} {target : OrderStatus} {u : Unit} :
    (moveOrder id user target).Returns (answer now) l u l' ↔ Moved now user target id l l' := by
  unfold moveOrder
  rw [Work.bind_returns]
  constructor
  · rintro ⟨r, s, hq, hr⟩
    obtain ⟨held, s, ho, hr⟩ := Work.bind_returns.mp hr
    obtain ⟨rfl, rfl⟩ := Work.orFail_returns.mp ho
    obtain ⟨⟨o, hfound, howner, hstatus, hcount, hproduct⟩, rfl⟩ := lockOrder_returns.mp hq
    obtain ⟨_, s, hreq, hr⟩ := Work.bind_returns.mp hr
    obtain ⟨hlt, rfl⟩ := Work.require_returns.mp hreq
    by_cases hb : held.status = .inBasket
    · rw [if_pos hb] at hr
      obtain ⟨_, s, hc, hr⟩ := Work.bind_returns.mp hr
      obtain ⟨p, hp, henough, rfl⟩ := commitStock_returns.mp hc
      obtain ⟨o', ho', -, rfl⟩ := writeStatus_returns.mp hr
      obtain rfl : o = o' := Option.some.inj (hfound.symm.trans ho')
      rw [← hcount, ← hproduct] at *
      rw [hb] at hstatus hlt
      exact .leave hfound howner hstatus hlt hp henough
    · rw [if_neg hb] at hr
      obtain ⟨o', ho', -, rfl⟩ := writeStatus_returns.mp hr
      rw [hfound] at ho'; cases ho'
      exact .onward hfound howner hstatus hb hlt
  · intro h
    cases h with
    | @onward o source found owner status left forward =>
      refine ⟨some ⟨source, o.count, o.product⟩, l, ?_, ?_⟩
      · exact lockOrder_returns.mpr ⟨⟨o, found, owner, status, rfl, rfl⟩, rfl⟩
      refine Work.bind_returns.mpr ⟨_, l, Work.orFail_returns.mpr ⟨rfl, rfl⟩, ?_⟩
      refine Work.bind_returns.mpr ⟨(), l, Work.require_returns.mpr ⟨forward, rfl⟩, ?_⟩
      rw [if_neg left]
      exact writeStatus_returns.mpr ⟨o, found, status, rfl⟩
    | @leave o p found owner status forward product enough =>
      refine ⟨some ⟨.inBasket, o.count, o.product⟩, l, ?_, ?_⟩
      · exact lockOrder_returns.mpr ⟨⟨o, found, owner, status, rfl, rfl⟩, rfl⟩
      refine Work.bind_returns.mpr ⟨_, l, Work.orFail_returns.mpr ⟨rfl, rfl⟩, ?_⟩
      refine Work.bind_returns.mpr ⟨(), l, Work.require_returns.mpr ⟨forward, rfl⟩, ?_⟩
      rw [if_pos rfl]
      refine Work.bind_returns.mpr ⟨(), _, commitStock_returns.mpr ⟨p, product, enough, rfl⟩, ?_⟩
      exact writeStatus_returns.mpr ⟨o, found, status, rfl⟩

theorem buyOrders_returns {user : UserId} {ids : List OrderId} {u : Unit} :
    (buyOrders user ids).Returns (answer now) l u l' ↔ Bought now user ids l l' := by
  induction ids generalizing l with
  | nil =>
    simp only [buyOrders, Work.pure_eq, Work.done_returns, true_and]
    constructor
    · rintro rfl
      exact .nil
    · rintro ⟨⟩
      rfl
  | cons id ids ih =>
    simp only [buyOrders, Work.bind_returns, moveOrder_returns, ih]
    constructor
    · rintro ⟨_, l₁, first, rest⟩
      exact .cons first rest
    · rintro ⟨⟩
      rename_i l₁ first rest
      exact ⟨(), l₁, first, rest⟩

theorem buyBasket_returns {user : UserId} {n : Nat} :
    (buyBasket user).Returns (answer now) l n l' ↔
      l.basketIds user ≠ [] ∧ Bought now user (l.basketIds user) l l' ∧
        n = (l.basketIds user).length := by
  unfold buyBasket
  simp only [Work.bind_returns, Work.require_returns, buyOrders_returns, Work.pure_eq,
    Work.done_returns, Work.query_returns, answer, Outcome.ok, Except.ok.injEq]
  constructor
  · rintro ⟨_, _, ⟨rfl, rfl⟩, _, _, ⟨hne, rfl⟩, _, _, moves, rfl, rfl⟩
    exact ⟨hne, moves, rfl⟩
  · rintro ⟨hne, moves, rfl⟩
    exact ⟨_, l, ⟨rfl, rfl⟩, (), l, ⟨hne, rfl⟩, (), l', moves, rfl, rfl⟩

theorem reserve_returns {id : ProductId} {requested : Int32} {p : Product} :
    (reserve id requested).Returns (answer now) l p l' ↔
      (0 < requested ∧ l.products.get? id = some p ∧ p.isActive ∧ requested ≤ p.available) ∧
        l = l' := by
  unfold reserve
  simp only [Work.bind_returns, Work.require_returns, Work.orFail_returns, lockProduct_returns]
  constructor
  · rintro ⟨_, _, ⟨hpos, rfl⟩, _, _, ⟨rfl, rfl⟩, q, _, ⟨hq, rfl⟩, hr⟩
    obtain ⟨hq, hactive⟩ := Option.filter_eq_some_iff.mp hq
    split at hr
    · simp [Work.bind_returns] at hr
    · rename_i henough
      obtain ⟨rfl, rfl⟩ := Work.done_returns.mp hr
      exact ⟨⟨hpos, hq, hactive, Int32.not_lt.mp henough⟩, rfl⟩
  · rintro ⟨⟨hpos, hp, hactive, henough⟩, rfl⟩
    refine ⟨(), l, ⟨hpos, rfl⟩, some p, l, ⟨hp, rfl⟩, p, l, ⟨?_, rfl⟩, ?_⟩
    · exact Option.filter_eq_some_iff.mpr ⟨rfl, hactive⟩
    · rw [if_neg (Int32.not_lt.mpr henough)]
      exact Work.done_returns.mpr ⟨rfl, rfl⟩

/-- Whether a product is among the favourites is looked up in a list of one. -/
theorem contains_filter_favourites (l : Ledger) (user : UserId) (id : ProductId) :
    ([id].filter fun i => (user, i) ∈ l.favourites).contains id
      = l.favourites.contains (user, id) := by
  by_cases h : (user, id) ∈ l.favourites <;> simp [h]

theorem addToBasket_returns {user : UserId} {id : ProductId} {count : Int32} {e : BasketEntry} :
    (addToBasket user id count).Returns (answer now) l e l' ↔
      ∃ p, 0 < count ∧ l.products.get? id = some p ∧ p.isActive ∧ count ≤ p.available ∧
        l.lastOrder ≠ Int64.maxValue ∧ l.newEntry now user id count p = e ∧
        l.addOrder now user id count = l' := by
  unfold addToBasket
  simp only [Work.bind_returns, reserve_returns]
  constructor
  · rintro ⟨p, _, ⟨⟨hpos, hp, hactive, henough⟩, rfl⟩, ⟨order, createdAt⟩, s, hq, hr⟩
    rw [Work.query_returns] at hq
    simp only [answer] at hq
    split at hq
    · simp [Outcome.error] at hq
    · rename_i hfree
      simp only [Outcome.ok, Except.ok.injEq, Prod.mk.injEq] at hq
      obtain ⟨⟨rfl, rfl⟩, rfl⟩ := hq
      simp only [Work.query_returns, answer, Outcome.ok, Except.ok.injEq, Work.pure_eq,
        Work.done_returns] at hr
      obtain ⟨_, _, ⟨rfl, rfl⟩, _, _, ⟨rfl, rfl⟩, rfl, rfl⟩ := hr
      refine ⟨p, hpos, hp, hactive, henough, hfree, ?_, rfl⟩
      rw [newEntry, ← contains_filter_favourites]
      rfl
  · rintro ⟨p, hpos, hp, hactive, henough, hfree, rfl, rfl⟩
    refine ⟨p, l, ⟨⟨hpos, hp, hactive, henough⟩, rfl⟩, (l.lastOrder + 1, now),
      l.addOrder now user id count, ?_, ?_⟩
    · rw [Work.query_returns]
      simp [answer, hfree, Outcome.ok, addOrder, StoredOrder.fresh]
    · simp only [Work.query_returns, answer, Outcome.ok, Except.ok.injEq, Work.pure_eq,
        Work.done_returns]
      refine ⟨_, _, ⟨rfl, rfl⟩, _, _, ⟨rfl, rfl⟩, ?_, rfl⟩
      rw [newEntry, ← contains_filter_favourites]
      rfl

theorem basketOrder?_eq_some_iff {id : OrderId} {user : UserId} {o : StoredOrder} :
    l.basketOrder? id user = some o ↔
      l.orders.get? id = some o ∧ o.owner = user ∧ o.isInBasket := by
  simp [basketOrder?, Option.filter_eq_some_iff]

theorem setCount_returns {user : UserId} {id : OrderId} {count : Int32} {u : Unit} :
    (setCount user id count).Returns (answer now) l u l' ↔
      ∃ o p, 0 < count ∧ l.orders.get? id = some o ∧ o.owner = user ∧ o.isInBasket ∧
        l.products.get? o.product = some p ∧ p.isActive ∧ count ≤ p.available ∧
        l.storeOrder id (o.recounted count now) = l' := by
  have h := answer_writeCount now id user count l
  unfold setCount
  simp only [Work.bind_returns, Work.require_returns, Work.orFail_returns, Work.discard_returns,
    reserve_returns]
  constructor
  · rintro ⟨_, _, ⟨hpos, rfl⟩, _, _, hq, held, _, ⟨rfl, rfl⟩, _, _, ⟨hb, rfl⟩, _, _,
      ⟨p, ⟨-, hp, hactive, henough⟩, rfl⟩, n, _, hw, hn, rfl⟩
    obtain ⟨⟨o, ho, hu, hs, -, hproduct⟩, rfl⟩ := lockOrder_returns.mp hq
    obtain ⟨-, o', ho', hw⟩ := (guarded_returns h).mp ⟨hw, hn⟩
    obtain ⟨ho', -, hbasket⟩ := basketOrder?_eq_some_iff.mp ho'
    obtain rfl : o = o' := Option.some.inj (ho.symm.trans ho')
    rw [← hproduct] at hp
    exact ⟨o, p, hpos, ho, hu, hbasket, hp, hactive, henough, hw⟩
  · rintro ⟨o, p, hpos, ho, hu, hbasket, hp, hactive, henough, hw⟩
    have hs : o.status = OrderStatus.inBasket.code := by simpa [StoredOrder.isInBasket] using hbasket
    obtain ⟨hq, hn⟩ := (guarded_returns h (n := 1)).mpr
      ⟨rfl, o, basketOrder?_eq_some_iff.mpr ⟨ho, hu, hbasket⟩, hw⟩
    exact ⟨(), l, ⟨hpos, rfl⟩, some ⟨.inBasket, o.count, o.product⟩, l,
      lockOrder_returns.mpr ⟨⟨o, ho, hu, hs, rfl, rfl⟩, rfl⟩, _, l, ⟨rfl, rfl⟩, (), l, ⟨rfl, rfl⟩,
      (), l, ⟨p, ⟨hpos, hp, hactive, henough⟩, rfl⟩, 1, l', hq, hn, rfl⟩

theorem deleteFromBasket_returns {user : UserId} {id : OrderId} {u : Unit} :
    (deleteFromBasket user id).Returns (answer now) l u l' ↔
      ∃ o, l.orders.get? id = some o ∧ o.owner = user ∧ o.isInBasket ∧ l.dropOrder id = l' := by
  have h := answer_deleteBasketOrder now id user l
  unfold deleteFromBasket
  simp only [Work.bind_returns, Work.require_returns]
  constructor
  · rintro ⟨n, _, hq, hn, rfl⟩
    obtain ⟨-, o, ho, hw⟩ := (guarded_returns h).mp ⟨hq, hn⟩
    obtain ⟨ho, hu, hbasket⟩ := basketOrder?_eq_some_iff.mp ho
    exact ⟨o, ho, hu, hbasket, hw⟩
  · rintro ⟨o, ho, hu, hbasket, hw⟩
    obtain ⟨hq, hn⟩ := (guarded_returns h (n := 1)).mpr
      ⟨rfl, o, basketOrder?_eq_some_iff.mpr ⟨ho, hu, hbasket⟩, hw⟩
    exact ⟨1, l', hq, hn, rfl⟩

end Answers

end Ledger

end Marketplace
