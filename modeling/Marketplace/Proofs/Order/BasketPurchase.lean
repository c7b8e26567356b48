import Marketplace.Proofs.Order.ExactListing
import Marketplace.Proofs.Order.Refusal
import Marketplace.Proofs.Order.StockLedger

/-!
# What buying a basket comes to

The orders of a basket are bought one after the other, each from the stock that those before it have
left, and the first one that is refused undoes them all. What decides is the sum: `Ledger.Covers`
compares each stock with all the pieces of its product that the basket asks for.

* `Ledger.pieces`: the pieces of a product that some orders ask for, all together.
* `Ledger.covers_cons_iff`: the stocks cover some orders if they cover the first and what it leaves
  covers the rest. So one pass over the orders finds out about the sums
  (`HoldsBasket.bought_iff_covers`).
* `Ledger.Purchased`: all that buying some orders does (`HoldsBasket.purchased`).
* `purchase_outcome`: the outcome of every purchase of a basket.
-/

namespace Marketplace

namespace Ledger

variable {now : Instant} {l l' : Ledger} {user : UserId} {id : ProductId} {o : StoredOrder}
  {os : List StoredOrder} {p : Product} {e : OrderError}

/-- The orders in a user's basket, by increasing identifier. -/
def basketOf (l : Ledger) (user : UserId) : List StoredOrder :=
  l.orders.values.filter fun o => o.owner = user ∧ o.isInBasket

/-! ## Pieces -/

/-- How many pieces of a product the orders ask for, all together. -/
def pieces (os : List StoredOrder) (id : ProductId) : Int :=
  ((os.filter (·.product = id)).map (·.count.toInt)).sum

theorem pieces_cons_self (o : StoredOrder) (os : List StoredOrder) :
    pieces (o :: os) o.product = o.count.toInt + pieces os o.product := by
  simp [pieces]

theorem pieces_cons_ne (h : o.product ≠ id) (os : List StoredOrder) :
    pieces (o :: os) id = pieces os id := by
  simp [pieces, h]

theorem pieces_eq_zero (h : ∀ o ∈ os, o.product ≠ id) : pieces os id = 0 := by
  induction os with
  | nil => rfl
  | cons o os ih =>
    obtain ⟨ho, hos⟩ := List.forall_mem_cons.mp h
    rw [pieces_cons_ne ho, ih hos]

theorem pieces_nonneg (h : ∀ o ∈ os, 0 < o.count) (id : ProductId) : 0 ≤ pieces os id := by
  induction os with
  | nil => exact Int.le_refl 0
  | cons o os ih =>
    obtain ⟨hpos, hos⟩ := List.forall_mem_cons.mp h
    have hrest := ih hos
    by_cases hid : o.product = id
    · subst hid
      have hzero : (0 : Int32).toInt = 0 := by decide
      have hcount := Int32.lt_iff_toInt_lt.mp hpos
      rw [pieces_cons_self]
      omega
    · rwa [pieces_cons_ne hid]

/-- Each product of the orders is there, with a stock for all of them together. -/
def Covers (l : Ledger) (os : List StoredOrder) : Prop :=
  ∀ o ∈ os, ∃ p, l.products.get? o.product = some p ∧ pieces os o.product ≤ p.available.toInt

/-- A stock that is not negative covers a product, also if no order asks for it. -/
theorem Covers.pieces_le (h : l.Covers os) (hp : l.products.get? id = some p)
    (hstock : 0 ≤ p.available.toInt) : pieces os id ≤ p.available.toInt := by
  by_cases hasked : ∃ o ∈ os, o.product = id
  · obtain ⟨o, ho, rfl⟩ := hasked
    obtain ⟨p', hp', hle⟩ := h o ho
    obtain rfl := Option.some.inj (hp'.symm.trans hp)
    exact hle
  · have hzero : pieces os id = 0 := pieces_eq_zero fun o ho hid => hasked ⟨o, ho, hid⟩
    omega

/-! ## One order -/

/-- The order `o` of the product `p` is in processing, and its pieces are taken. -/
def buyOne (l : Ledger) (now : Instant) (o : StoredOrder) (p : Product) : Ledger :=
  (l.takeStock o.product p o.count).storeOrder o.id (o.moved .inProcessing now)

theorem get?_products_buyOne (l : Ledger) (now : Instant) (o : StoredOrder) (p : Product)
    (id : ProductId) : (l.buyOne now o p).products.get? id =
      if o.product = id then some { p with available := p.available - o.count }
      else l.products.get? id :=
  Table.get?_insert _ _ _ _

theorem get?_orders_buyOne (l : Ledger) (now : Instant) (o : StoredOrder) (p : Product)
    (id : OrderId) : (l.buyOne now o p).orders.get? id =
      if o.id = id then some (o.moved .inProcessing now) else l.orders.get? id :=
  Table.get?_insert _ _ _ _

/-- An order moves out of the basket if its product has the pieces. -/
theorem moved_from_basket_iff (found : l.orders.get? o.id = some o) (owner : o.owner = user)
    (inBasket : o.isInBasket) : Moved now user .inProcessing o.id l l' ↔
      ∃ p, l.products.get? o.product = some p ∧ o.count ≤ p.available ∧ l.buyOne now o p = l' := by
  have hstatus : o.status = OrderStatus.inBasket.code := by
    simpa [StoredOrder.isInBasket] using inBasket
  constructor
  · intro h
    cases h with
    | onward found' _ status left =>
      obtain rfl := Option.some.inj (found'.symm.trans found)
      exact (left (OrderStatus.code_inj.mp (status.symm.trans hstatus))).elim
    | leave found' _ _ _ product enough =>
      obtain rfl := Option.some.inj (found'.symm.trans found)
      exact ⟨_, product, enough, rfl⟩
  · rintro ⟨p, product, enough, rfl⟩
    exact .leave found owner hstatus (by decide) product enough

/-- The stocks cover some orders if they have the pieces of the first one and what it leaves covers
the rest. -/
theorem covers_cons_iff (now : Instant) (hpos : ∀ o' ∈ o :: os, 0 < o'.count) :
    l.Covers (o :: os) ↔ ∃ p, l.products.get? o.product = some p ∧ o.count ≤ p.available ∧
      (l.buyOne now o p).Covers os := by
  obtain ⟨hcount, hos⟩ := List.forall_mem_cons.mp hpos
  have hzero : (0 : Int32).toInt = 0 := by decide
  have hcount' := Int32.lt_iff_toInt_lt.mp hcount
  constructor
  · intro h
    obtain ⟨p, hp, hle⟩ := h o List.mem_cons_self
    rw [pieces_cons_self] at hle
    have henough : o.count ≤ p.available := by
      have := pieces_nonneg hos o.product
      exact Int32.le_iff_toInt_le.mpr (by omega)
    refine ⟨p, hp, henough, fun o' ho' => ?_⟩
    rw [get?_products_buyOne]
    by_cases hid : o.product = o'.product
    · -- A second order of the product: the first one's pieces are gone, from the sum and the stock.
      rw [if_pos hid, ← hid]
      have hrest := toInt_sub_of_le hcount henough
      exact ⟨_, rfl, by simp only; omega⟩
    · obtain ⟨p', hp', hle'⟩ := h o' (List.mem_cons_of_mem o ho')
      rw [pieces_cons_ne hid] at hle'
      rw [if_neg hid]
      exact ⟨p', hp', hle'⟩
  · rintro ⟨p, hp, henough, h⟩
    have hrest := toInt_sub_of_le hcount henough
    have hself : (l.buyOne now o p).products.get? o.product =
        some { p with available := p.available - o.count } := by
      rw [get?_products_buyOne, if_pos rfl]
    have hle : pieces (o :: os) o.product ≤ p.available.toInt := by
      have henough' := Int32.le_iff_toInt_le.mp henough
      have := h.pieces_le hself (by simp only; omega)
      simp only at this
      rw [pieces_cons_self]
      omega
    intro o' ho'
    by_cases hid : o.product = o'.product
    · rw [← hid]
      exact ⟨p, hp, hle⟩
    · have ho' : o' ∈ os := by
        rcases List.mem_cons.mp ho' with rfl | ho'
        · exact (hid rfl).elim
        · exact ho'
      obtain ⟨p', hp', hle'⟩ := h o' ho'
      rw [get?_products_buyOne, if_neg hid] at hp'
      rw [pieces_cons_ne hid]
      exact ⟨p', hp', hle'⟩

/-! ## All orders of a basket -/

/-- The orders stand in the user's basket, each once. -/
structure HoldsBasket (user : UserId) (os : List StoredOrder) (l : Ledger) : Prop where
  found : ∀ o ∈ os, l.orders.get? o.id = some o
  owner : ∀ o ∈ os, o.owner = user
  inBasket : ∀ o ∈ os, o.isInBasket
  positive : ∀ o ∈ os, 0 < o.count
  once : (os.map (·.id)).Nodup

theorem holdsBasket_basketOf (hw : l.WellFormed) (user : UserId) :
    HoldsBasket user (l.basketOf user) l := by
  have hmem : ∀ o ∈ l.basketOf user, l.orders.get? o.id = some o ∧ o.owner = user ∧ o.isInBasket ∧
      0 < o.count := by
    intro o ho
    obtain ⟨ho, hbasket⟩ := List.mem_filter.mp ho
    obtain ⟨owner, inBasket⟩ := of_decide_eq_true hbasket
    obtain ⟨id, ho⟩ := Table.mem_values_iff.mp ho
    rw [(hw.orders ho).id_eq]
    exact ⟨ho, owner, inBasket, (hw.orders ho).count_pos⟩
  refine ⟨fun o ho => (hmem o ho).1, fun o ho => (hmem o ho).2.1, fun o ho => (hmem o ho).2.2.1,
    fun o ho => (hmem o ho).2.2.2, ?_⟩
  have hids : ((l.basketOf user).map (·.id)).Pairwise (· < ·) :=
    List.pairwise_map.mpr (hw.values_pairwise.filter _)
  exact hids.imp Int64.ne_of_lt

/-- The other orders stay in the basket when one is bought. -/
theorem HoldsBasket.tail (h : HoldsBasket user (o :: os) l) (p : Product) :
    HoldsBasket user os (l.buyOne now o p) := by
  obtain ⟨hfresh, honce⟩ := List.nodup_cons.mp h.once
  refine ⟨fun o' ho' => ?_, fun o' ho' => h.owner o' (List.mem_cons_of_mem o ho'),
    fun o' ho' => h.inBasket o' (List.mem_cons_of_mem o ho'),
    fun o' ho' => h.positive o' (List.mem_cons_of_mem o ho'), honce⟩
  have hne : o.id ≠ o'.id := fun hid => hfresh (List.mem_map.mpr ⟨o', ho', hid.symm⟩)
  rw [get?_orders_buyOne, if_neg hne]
  exact h.found o' (List.mem_cons_of_mem o ho')

/-- A purchase of a basket is one of its first order and one of the others. -/
theorem HoldsBasket.bought_cons_iff (h : HoldsBasket user (o :: os) l) :
    Bought now user ((o :: os).map (·.id)) l l' ↔
      ∃ p, l.products.get? o.product = some p ∧ o.count ≤ p.available ∧
        Bought now user (os.map (·.id)) (l.buyOne now o p) l' := by
  have found := h.found o List.mem_cons_self
  have owner := h.owner o List.mem_cons_self
  have inBasket := h.inBasket o List.mem_cons_self
  constructor
  · rintro (_ | ⟨first, rest⟩)
    obtain ⟨p, hp, henough, rfl⟩ := (moved_from_basket_iff found owner inBasket).mp first
    exact ⟨p, hp, henough, rest⟩
  · rintro ⟨p, hp, henough, rest⟩
    refine .cons ?_ rest
    exact (moved_from_basket_iff found owner inBasket).mpr ⟨p, hp, henough, rfl⟩

/-- A basket can be bought if the stocks cover it. -/
theorem HoldsBasket.bought_iff_covers (h : HoldsBasket user os l) (now : Instant) :
    (∃ l', Bought now user (os.map (·.id)) l l') ↔ l.Covers os := by
  induction os generalizing l with
  | nil =>
    have hnone : l.Covers [] := fun o ho => by cases ho
    exact ⟨fun _ => hnone, fun _ => ⟨l, .nil⟩⟩
  | cons o os ih =>
    rw [covers_cons_iff now h.positive]
    constructor
    · rintro ⟨l', hb⟩
      obtain ⟨p, hp, henough, rest⟩ := h.bought_cons_iff.mp hb
      exact ⟨p, hp, henough, (ih (h.tail p)).mp ⟨l', rest⟩⟩
    · rintro ⟨p, hp, henough, hcovers⟩
      obtain ⟨l', rest⟩ := (ih (h.tail p)).mpr hcovers
      exact ⟨l', h.bought_cons_iff.mpr ⟨p, hp, henough, rest⟩⟩

/-- All that buying some orders does. -/
structure Purchased (now : Instant) (os : List StoredOrder) (l l' : Ledger) : Prop where
  /-- The orders are in processing. -/
  bought : ∀ o ∈ os, l'.orders.get? o.id = some (o.moved .inProcessing now)
  /-- All other orders are as they were. -/
  others : ∀ id, id ∉ os.map (·.id) → l'.orders.get? id = l.orders.get? id
  /-- A stock has lost the pieces that the orders ask for, and nothing else of a product changes. -/
  stock : ∀ id p, l.products.get? id = some p → ∃ rest,
    l'.products.get? id = some { p with available := rest } ∧
      rest.toInt = p.available.toInt - pieces os id
  missing : ∀ id, l.products.get? id = none → l'.products.get? id = none
  images : l'.images = l.images
  favourites : l'.favourites = l.favourites
  lastOrder : l'.lastOrder = l.lastOrder

theorem Purchased.nil (now : Instant) (l : Ledger) : Purchased now [] l l where
  bought o ho := by cases ho
  others _ _ := rfl
  stock id p hp := ⟨p.available, hp, by simp [pieces]⟩
  missing _ h := h
  images := rfl
  favourites := rfl
  lastOrder := rfl

theorem Purchased.cons (h : Purchased now os (l.buyOne now o p) l')
    (hfresh : o.id ∉ os.map (·.id)) (hp : l.products.get? o.product = some p)
    (hcount : 0 < o.count) (henough : o.count ≤ p.available) : Purchased now (o :: os) l l' where
  bought o' ho' := by
    rcases List.mem_cons.mp ho' with rfl | ho'
    · rw [h.others _ hfresh, get?_orders_buyOne, if_pos rfl]
    · exact h.bought o' ho'
  others id hid := by
    obtain ⟨hne, hid⟩ := not_or.mp (List.mem_cons.not.mp hid)
    rw [h.others id hid, get?_orders_buyOne, if_neg (Ne.symm hne)]
  stock id q hq := by
    have hproduct := get?_products_buyOne l now o p id
    by_cases hid : o.product = id
    · subst hid
      obtain rfl := Option.some.inj (hp.symm.trans hq)
      rw [if_pos rfl] at hproduct
      obtain ⟨rest, hrest, hsum⟩ := h.stock _ _ hproduct
      have hsub := toInt_sub_of_le hcount henough
      refine ⟨rest, hrest, ?_⟩
      rw [pieces_cons_self]
      simp only at hsum
      omega
    · rw [if_neg hid, hq] at hproduct
      rw [pieces_cons_ne hid]
      exact h.stock id q hproduct
  missing id hid := by
    apply h.missing
    rw [get?_products_buyOne]
    split
    · rename_i heq
      rw [heq, hid] at hp
      cases hp
    · exact hid
  images := h.images
  favourites := h.favourites
  lastOrder := h.lastOrder

theorem HoldsBasket.purchased (h : HoldsBasket user os l)
    (hb : Bought now user (os.map (·.id)) l l') : Purchased now os l l' := by
  induction os generalizing l with
  | nil =>
    cases hb
    exact .nil now _
  | cons o os ih =>
    obtain ⟨p, hp, henough, rest⟩ := h.bought_cons_iff.mp hb
    have hfresh := (List.nodup_cons.mp h.once).1
    exact (ih (h.tail p) rest).cons hfresh hp (h.positive o List.mem_cons_self) henough

/-! ## The outcome of a purchase -/

theorem mem_basketOf_iff : o ∈ l.basketOf user ↔
    (∃ id, l.orders.get? id = some o) ∧ o.owner = user ∧ o.isInBasket := by
  simp [basketOf, Table.mem_values_iff]

/-- An empty basket lists nothing. -/
theorem perform_basket_of_empty (h : l.basketOf user = []) (now : Instant) :
    (l.perform now (.basket user)).result = .ok (.entries []) := by
  have hlisting : l.listing (.inBasket user) = [] := by
    rw [List.eq_nil_iff_forall_not_mem]
    intro r hr
    obtain ⟨o, p, ⟨ho, -⟩, haccepts, -⟩ := mem_listing_iff_joins.mp hr
    have hmem : o ∈ l.basketOf user :=
      mem_basketOf_iff.mpr ⟨ho, by simpa [OrderFilter.accepts] using haccepts⟩
    rw [h] at hmem
    cases hmem
  rw [perform_basket, hlisting]
  rfl

/-- Who buys a basket has nothing left in it. -/
theorem Purchased.basketOf_eq_nil (hw : l.WellFormed)
    (h : Purchased now (l.basketOf user) l l') : l'.basketOf user = [] := by
  rw [List.eq_nil_iff_forall_not_mem]
  intro o ho
  obtain ⟨⟨id, ho⟩, owner, inBasket⟩ := mem_basketOf_iff.mp ho
  by_cases hid : id ∈ (l.basketOf user).map (·.id)
  · obtain ⟨b, hb, rfl⟩ := List.mem_map.mp hid
    obtain rfl := Option.some.inj ((h.bought b hb).symm.trans ho)
    have hleft : (b.moved .inProcessing now).isInBasket = false := by
      simp [StoredOrder.isInBasket, StoredOrder.moved, OrderStatus.code_inj]
    rw [hleft] at inBasket
    cases inBasket
  · rw [h.others id hid] at ho
    have hmem : o ∈ l.basketOf user := mem_basketOf_iff.mpr ⟨⟨id, ho⟩, owner, inBasket⟩
    exact hid (List.mem_map.mpr ⟨o, hmem, (hw.orders ho).id_eq⟩)

theorem HoldsBasket.before {before after : List StoredOrder}
    (h : HoldsBasket user (before ++ o :: after) l) :
    HoldsBasket user before l ∧ o.id ∉ before.map (·.id) := by
  have honce := h.once
  rw [List.map_append, List.nodup_append] at honce
  obtain ⟨hbefore, -, hdisjoint⟩ := honce
  have hsub : ∀ o' ∈ before, o' ∈ before ++ o :: after :=
    fun o' ho' => List.mem_append_left _ ho'
  refine ⟨⟨fun o' ho' => h.found o' (hsub o' ho'), fun o' ho' => h.owner o' (hsub o' ho'),
    fun o' ho' => h.inBasket o' (hsub o' ho'), fun o' ho' => h.positive o' (hsub o' ho'),
    hbefore⟩, fun hid => ?_⟩
  exact hdisjoint _ hid _ (List.mem_map_of_mem List.mem_cons_self) rfl

/-- Only a stock refuses a basket that is not empty. -/
theorem error_of_perform_buy (hw : l.WellFormed) (hsome : l.basketOf user ≠ [])
    (h : (l.perform now (.buy user)).result = .error e) : e = .noAffectedRows .stockDecrement := by
  cases perform_refusal hw h with
  | empty none => exact (hsome (List.map_eq_nil_iff.mp none)).elim
  | purchase listed moves move =>
    obtain ⟨before, rest, hbasket, rfl, hrest⟩ := List.map_eq_append_iff.mp listed
    obtain ⟨o, after, rfl, rfl, -⟩ := List.map_eq_cons_iff.mp hrest
    have hholds := holdsBasket_basketOf hw user
    rw [show l.basketOf user = before ++ o :: after from hbasket] at hholds
    have ho : o ∈ before ++ o :: after := List.mem_append_right _ List.mem_cons_self
    obtain ⟨hbefore, hfresh⟩ := hholds.before
    -- The orders that have been bought are other ones, so the refused one still is in the basket.
    have hfound := (hbefore.purchased moves).others o.id hfresh
    rw [hholds.found o ho] at hfound
    cases move with
    | order foreign => exact (foreign o hfound (hholds.owner o ho)).elim
    | @status _ source found _ status back =>
      obtain rfl := Option.some.inj (found.symm.trans hfound)
      have hbasket : source = .inBasket := by
        have := hholds.inBasket _ ho
        simpa [StoredOrder.isInBasket, status, OrderStatus.code_inj] using this
      subst hbasket
      exact (back (by decide)).elim
    | stock => rfl

theorem perform_buy_of_empty (hw : l.WellFormed) (now : Instant) (hnone : l.basketOf user = []) :
    (l.perform now (.buy user)).result = .error .noOrdersToBuy ∧
      (l.perform now (.buy user)).state = l := by
  have hids : l.basketIds user = [] := List.map_eq_nil_iff.mpr hnone
  rcases perform_cases now (.buy user) l with ⟨e, hresult, hstate⟩ | ⟨a, -, hreturns⟩
  · cases perform_refusal hw hresult with
    | empty => exact ⟨hresult, hstate⟩
    | purchase listed => simp [hids] at listed
  · obtain ⟨n, hb, -⟩ := Work.map_returns.mp hreturns
    exact ((buyBasket_returns.mp hb).1 hids).elim

theorem perform_buy_of_covers (hw : l.WellFormed) (now : Instant) (hsome : l.basketOf user ≠ [])
    (hcovers : l.Covers (l.basketOf user)) :
    (l.perform now (.buy user)).result = .ok (.bought (l.basketOf user).length) ∧
      Purchased now (l.basketOf user) l (l.perform now (.buy user)).state := by
  have hholds := holdsBasket_basketOf hw user
  have hids : l.basketIds user = (l.basketOf user).map (·.id) := rfl
  have hne : l.basketIds user ≠ [] := fun h => hsome (List.map_eq_nil_iff.mp h)
  obtain ⟨l', hb⟩ := (hholds.bought_iff_covers now).mpr hcovers
  have hreturns : (OrderCall.buy user).work.Returns (answer now) l
      (.bought (l.basketOf user).length) l' := by
    refine Work.map_returns.mpr ⟨_, buyBasket_returns.mpr ⟨hne, hb, rfl⟩, ?_⟩
    rw [hids, List.length_map]
  obtain ⟨hresult, hstate⟩ := perform_of_returns hreturns
  refine ⟨hresult, ?_⟩
  rw [hstate]
  exact hholds.purchased hb

theorem perform_buy_of_short (hw : l.WellFormed) (now : Instant) (hsome : l.basketOf user ≠ [])
    (hshort : ¬ l.Covers (l.basketOf user)) :
    (l.perform now (.buy user)).result = .error (.noAffectedRows .stockDecrement) ∧
      (l.perform now (.buy user)).state = l := by
  rcases perform_cases now (.buy user) l with ⟨e, hresult, hstate⟩ | ⟨a, -, hreturns⟩
  · obtain rfl := error_of_perform_buy hw hsome hresult
    exact ⟨hresult, hstate⟩
  · obtain ⟨n, hb, -⟩ := Work.map_returns.mp hreturns
    have hbought := (buyBasket_returns.mp hb).2.1
    exact (hshort (((holdsBasket_basketOf hw user).bought_iff_covers now).mp ⟨_, hbought⟩)).elim

/-- **The outcome of buying a basket.** In a ledger that can arise, the purchase of an empty basket
is refused. Otherwise it succeeds if every product of the basket is there and its stock is at least
the sum of the counts of all its orders in the basket, active or not. Then it moves exactly these
orders, takes exactly these sums and leaves the basket empty. If not, a stock refuses it, and
nothing changes. -/
theorem purchase_outcome (hl : l.Reachable) (now : Instant) (user : UserId) :
    let bought := l.perform now (.buy user)
    (l.basketOf user = [] → bought.result = .error .noOrdersToBuy ∧ bought.state = l) ∧
    (l.basketOf user ≠ [] → l.Covers (l.basketOf user) →
      bought.result = .ok (.bought (l.basketOf user).length) ∧
      Purchased now (l.basketOf user) l bought.state ∧
      ∀ later, (bought.state.perform later (.basket user)).result = .ok (.entries [])) ∧
    (l.basketOf user ≠ [] → ¬ l.Covers (l.basketOf user) →
      ∃ write, write.label = "product stock decrement" ∧
        bought.result = .error (.noAffectedRows write) ∧ bought.state = l) := by
  intro bought
  have hw := hl.wellFormed
  refine ⟨perform_buy_of_empty hw now, fun hsome hcovers => ?_, fun hsome hshort => ?_⟩
  · obtain ⟨hresult, hpurchased⟩ := perform_buy_of_covers hw now hsome hcovers
    exact ⟨hresult, hpurchased, perform_basket_of_empty (hpurchased.basketOf_eq_nil hw)⟩
  · obtain ⟨hresult, hstate⟩ := perform_buy_of_short hw now hsome hshort
    exact ⟨.stockDecrement, rfl, hresult, hstate⟩

/-- Eight more kettles, of which there are ten, go into a basket with seven. -/
def greedyShop : Ledger := shop.apply (.call .epoch (.add 7 1 8))

/-- Seven kettles are bought. Fifteen are not, though there are enough for each order. -/
theorem purchase_outcome_shop :
    (shop.Reachable ∧ shop.Covers (shop.basketOf 7) ∧
      (shop.perform .epoch (.buy 7)).result = .ok (.bought 2)) ∧
    greedyShop.Reachable ∧ ¬ greedyShop.Covers (greedyShop.basketOf 7) ∧
      (greedyShop.perform .epoch (.buy 7)).state = greedyShop := by
  have hbasket : shop.basketOf 7 = [.fresh 1 7 1 4 .epoch, .fresh 2 7 1 3 .epoch] := by decide
  have hcovers : shop.Covers (shop.basketOf 7) := by
    rw [hbasket]
    intro o ho
    have hproduct : o.product = 1 := by
      simp only [List.mem_cons, List.not_mem_nil, or_false] at ho
      rcases ho with rfl | rfl <;> rfl
    rw [hproduct]
    exact ⟨kettles, by decide, by decide⟩
  have hgreedy : greedyShop.Reachable := shop_reachable.apply _
  have hfirst : .fresh 1 7 1 4 .epoch ∈ greedyShop.basketOf 7 := by decide
  have hshort : ¬ greedyShop.Covers (greedyShop.basketOf 7) := by
    intro h
    obtain ⟨p, hp, hle⟩ := h _ hfirst
    obtain rfl : kettles = p := Option.some.inj hp
    exact absurd hle (by decide)
  obtain ⟨-, hbought, -⟩ := purchase_outcome shop_reachable .epoch 7
  obtain ⟨-, -, hrefused⟩ := purchase_outcome hgreedy .epoch 7
  obtain ⟨-, -, -, hstate⟩ := hrefused (List.ne_nil_of_mem hfirst) hshort
  have hresult := (hbought (by simp [hbasket]) hcovers).1
  rw [hbasket] at hresult
  exact ⟨⟨shop_reachable, hcovers, hresult⟩, hgreedy, hshort, hstate⟩

end Ledger

end Marketplace
