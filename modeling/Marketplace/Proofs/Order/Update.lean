import Marketplace.Proofs.Order.History
import Marketplace.Proofs.Order.Refusal
import Marketplace.Proofs.Order.StockLedger

/-!
# What an update of an order comes to

`perform_refusal` finds a cause behind every refusal. For the two updates of an order, of its status
and of its count, the converse holds too: where there is a cause, the call is refused for it. So the
outcome of an update can be told from the ledger.

* `perform_setStatus_eq_error_iff`, `perform_setCount_eq_error_iff`: an update is refused exactly
  for its causes.
* `Ledger.Rewrites`, `Ledger.StockTaken`: all that a write of one order, or of one stock, does.
* `HasReached.replay`: an order that has left the basket stays, and its status never falls.
* `status_update_outcome`, `count_update_outcome`: the outcome of every update.
-/

namespace Marketplace

namespace Ledger

variable {now : Instant} {l l' : Ledger} {user : UserId} {id : OrderId} {target : OrderStatus}
  {count : Int32} {o : StoredOrder} {p : Product} {e : OrderError}

/-! ## A cause refuses -/

theorem lockOrder_returns_of_owned {s : OrderStatus} (found : l.orders.get? id = some o)
    (owner : o.owner = user) (status : o.status = s.code) :
    (Work.query (.lockOrder id user) : OrderWork _).Returns (answer now) l
      (some ⟨s, o.count, o.product⟩) l :=
  lockOrder_returns.mpr ⟨⟨o, found, owner, status, rfl, rfl⟩, rfl⟩

theorem reserve_fails_of_refusal {id : ProductId} (h : ReserveRefusal l id count e) :
    (reserve id count).Fails (answer now) l e l := by
  unfold reserve
  cases h with
  | count notPositive =>
    exact Work.bind_fails_left (Work.require_fails.mpr ⟨notPositive, rfl, rfl⟩)
  | product positive inactive =>
    have hnone : (l.products.get? id).filter (·.isActive) = none := by
      simpa [Option.filter_eq_none_iff] using inactive
    refine Work.bind_fails_right () (Work.require_returns.mpr ⟨positive, rfl⟩) ?_
    refine Work.bind_fails_right _ (lockProduct_returns.mpr ⟨rfl, rfl⟩) ?_
    exact Work.bind_fails_left (Work.orFail_fails.mpr ⟨hnone, rfl, rfl⟩)
  | stock positive found active short =>
    have hsome := Option.filter_eq_some_iff.mpr ⟨found, active⟩
    refine Work.bind_fails_right () (Work.require_returns.mpr ⟨positive, rfl⟩) ?_
    refine Work.bind_fails_right _ (lockProduct_returns.mpr ⟨rfl, rfl⟩) ?_
    refine Work.bind_fails_right _ (Work.orFail_returns.mpr ⟨hsome, rfl⟩) ?_
    dsimp only
    rw [if_pos short]
    exact Work.bind_fails_right () (Work.log_returns.mpr rfl) (Work.fail_fails.mpr ⟨rfl, rfl⟩)

theorem commitStock_fails_of_short {id : ProductId}
    (short : ∀ p, l.products.get? id = some p → p.available < count) :
    (commitStock id count).Fails (answer now) l (.noAffectedRows .stockDecrement) l := by
  have hnone : (l.products.get? id).filter (count ≤ ·.available) = none := by
    simpa [Option.filter_eq_none_iff] using short
  have htaken :
      (Work.query (.decrementStock id count) : OrderWork Nat).Returns (answer now) l 0 l := by
    rw [Work.query_returns, answer_decrementStock, hnone]
    exact ⟨rfl, rfl⟩
  unfold commitStock
  exact Work.bind_fails_right 0 htaken (Work.require_fails.mpr ⟨by simp, rfl, rfl⟩)

theorem moveOrder_fails_of_refusal (h : MoveRefusal user target id l e) :
    (moveOrder id user target).Fails (answer now) l e l := by
  unfold moveOrder
  cases h with
  | order foreign =>
    refine Work.bind_fails_right _ (lockOrder_returns_none.mpr ⟨foreign, rfl⟩) ?_
    exact Work.bind_fails_left (Work.orFail_fails.mpr ⟨rfl, rfl, rfl⟩)
  | status found owner status back =>
    refine Work.bind_fails_right _ (lockOrder_returns_of_owned found owner status) ?_
    refine Work.bind_fails_right _ (Work.orFail_returns.mpr ⟨rfl, rfl⟩) ?_
    exact Work.bind_fails_left (Work.require_fails.mpr ⟨back, rfl, rfl⟩)
  | stock found owner status forward short =>
    refine Work.bind_fails_right _ (lockOrder_returns_of_owned found owner status) ?_
    refine Work.bind_fails_right _ (Work.orFail_returns.mpr ⟨rfl, rfl⟩) ?_
    refine Work.bind_fails_right () (Work.require_returns.mpr ⟨forward, rfl⟩) ?_
    rw [if_pos rfl]
    exact Work.bind_fails_left (commitStock_fails_of_short short)

theorem setCount_fails_of_refusal (hw : l.WellFormed)
    (h : Refusal now l (.setCount user id count) e) :
    (setCount user id count).Fails (answer now) l e l := by
  unfold setCount
  cases h with
  | count notPositive =>
    exact Work.bind_fails_left (Work.require_fails.mpr ⟨notPositive, rfl, rfl⟩)
  | order positive foreign =>
    refine Work.bind_fails_right () (Work.require_returns.mpr ⟨positive, rfl⟩) ?_
    refine Work.bind_fails_right _ (lockOrder_returns_none.mpr ⟨foreign, rfl⟩) ?_
    exact Work.bind_fails_left (Work.orFail_fails.mpr ⟨rfl, rfl, rfl⟩)
  | basket positive found owner left =>
    obtain ⟨s, status⟩ := (hw.orders found).status
    have hbeyond : ¬ s = .inBasket := by
      simpa [StoredOrder.isInBasket, status, OrderStatus.code_inj] using left
    refine Work.bind_fails_right () (Work.require_returns.mpr ⟨positive, rfl⟩) ?_
    refine Work.bind_fails_right _ (lockOrder_returns_of_owned found owner status) ?_
    refine Work.bind_fails_right _ (Work.orFail_returns.mpr ⟨rfl, rfl⟩) ?_
    exact Work.bind_fails_left (Work.require_fails.mpr ⟨hbeyond, rfl, rfl⟩)
  | @reserve _ _ _ o _ positive found owner inBasket reserve =>
    have status : o.status = OrderStatus.inBasket.code := by
      simpa [StoredOrder.isInBasket] using inBasket
    refine Work.bind_fails_right () (Work.require_returns.mpr ⟨positive, rfl⟩) ?_
    refine Work.bind_fails_right _ (lockOrder_returns_of_owned found owner status) ?_
    refine Work.bind_fails_right _ (Work.orFail_returns.mpr ⟨rfl, rfl⟩) ?_
    refine Work.bind_fails_right () (Work.require_returns.mpr ⟨rfl, rfl⟩) ?_
    exact Work.bind_fails_left (Work.discard_fails.mpr (reserve_fails_of_refusal reserve))

/-- A status update is refused exactly for the causes of `MoveRefusal`. -/
theorem perform_setStatus_eq_error_iff (hw : l.WellFormed) :
    (l.perform now (.setStatus user id target)).result = .error e ↔
      MoveRefusal user target id l e := by
  constructor
  · intro h
    cases perform_refusal hw h with
    | move move => exact move
  · intro h
    exact perform_of_fails (Work.map_fails.mpr (moveOrder_fails_of_refusal h))

/-- A count update is refused exactly for its causes. -/
theorem perform_setCount_eq_error_iff (hw : l.WellFormed) :
    (l.perform now (.setCount user id count)).result = .error e ↔
      Refusal now l (.setCount user id count) e := by
  constructor
  · exact perform_refusal hw
  · intro h
    exact perform_of_fails (Work.map_fails.mpr (setCount_fails_of_refusal hw h))

/-! ## What an update leaves as it is -/

/-- The order under `id`, if it is the user's. -/
def ownOrder? (l : Ledger) (user : UserId) (id : OrderId) : Option StoredOrder :=
  (l.orders.get? id).filter (·.owner = user)

theorem ownOrder?_eq_some_iff :
    l.ownOrder? user id = some o ↔ l.orders.get? id = some o ∧ o.owner = user := by
  simp [ownOrder?, Option.filter_eq_some_iff]

theorem ownOrder?_eq_none_iff :
    l.ownOrder? user id = none ↔ ∀ o, l.orders.get? id = some o → o.owner ≠ user := by
  simp [ownOrder?, Option.filter_eq_none_iff]

/-- The order under `id` is now `o`, and nothing else has changed but perhaps products. -/
structure Rewrites (id : OrderId) (o : StoredOrder) (l l' : Ledger) : Prop where
  written : l'.orders.get? id = some o
  others : ∀ k ≠ id, l'.orders.get? k = l.orders.get? k
  images : l'.images = l.images
  favourites : l'.favourites = l.favourites
  lastOrder : l'.lastOrder = l.lastOrder

/-- The stock of a product has `count` pieces less, and nothing else of the products has changed. -/
structure StockTaken (id : ProductId) (count : Int32) (l l' : Ledger) : Prop where
  taken : ∃ p rest, l.products.get? id = some p ∧
    l'.products.get? id = some { p with available := rest } ∧
    rest.toInt = p.available.toInt - count.toInt
  others : ∀ k ≠ id, l'.products.get? k = l.products.get? k

theorem rewrites_storeOrder (l : Ledger) (id : OrderId) (o : StoredOrder) :
    Rewrites id o l (l.storeOrder id o) where
  written := get?_storeOrder_self
  others _ hk := get?_storeOrder_ne (Ne.symm hk)
  images := rfl
  favourites := rfl
  lastOrder := rfl

theorem Moved.rewrites (h : Moved now user target id l l') (ho : l.orders.get? id = some o) :
    Rewrites id (o.moved target now) l l' := by
  cases h with
  | onward found =>
    obtain rfl := Option.some.inj (found.symm.trans ho)
    exact rewrites_storeOrder l id _
  | leave found =>
    obtain rfl := Option.some.inj (found.symm.trans ho)
    obtain ⟨written, others, images, favourites, lastOrder⟩ := rewrites_storeOrder
      (l.takeStock _ _ _) id _
    exact ⟨written, others, images, favourites, lastOrder⟩

/-- A move takes the pieces of an order from the stock exactly if it takes it out of the basket. -/
theorem Moved.stockTaken (h : Moved now user target id l l') (ho : l.orders.get? id = some o)
    {current : OrderStatus} (hstatus : o.status = current.code) (hcount : 0 < o.count) :
    (current = .inBasket → StockTaken o.product o.count l l') ∧
      (current ≠ .inBasket → l'.products = l.products) := by
  cases h with
  | onward found _ status left =>
    obtain rfl := Option.some.inj (found.symm.trans ho)
    obtain rfl := OrderStatus.code_inj.mp (status.symm.trans hstatus)
    exact ⟨fun h => (left h).elim, fun _ => rfl⟩
  | @leave _ p found _ status _ product enough =>
    obtain rfl := Option.some.inj (found.symm.trans ho)
    obtain rfl := OrderStatus.code_inj.mp (status.symm.trans hstatus)
    refine ⟨fun _ => ⟨⟨p, _, product, Table.get?_insert_self _ _ _, ?_⟩, fun k hk => ?_⟩,
      fun h => (h rfl).elim⟩
    · exact toInt_sub_of_le hcount enough
    · change (l.products.insert _ _).get? k = _
      rw [Table.get?_insert, if_neg (Ne.symm hk)]

theorem StockTaken.products_ne {id : ProductId} (h : StockTaken id count l l')
    (hcount : 0 < count) : l'.products ≠ l.products := by
  intro heq
  obtain ⟨⟨p, rest, hp, hrest, hsum⟩, -⟩ := h
  rw [heq, hp] at hrest
  have havailable : p.available = rest := congrArg Product.available (Option.some.inj hrest)
  have hzero : (0 : Int32).toInt = 0 := by decide
  have := Int32.lt_iff_toInt_lt.mp hcount
  rw [← havailable] at hsum
  omega

/-! ## An order beyond the basket -/

/-- The user's order stands under `id`, and has come as far as `target` or further. -/
def HasReached (user : UserId) (id : OrderId) (target : OrderStatus) (l : Ledger) : Prop :=
  ∃ o, l.orders.get? id = some o ∧ o.owner = user ∧ target.code ≤ o.status

/-- No event takes an order away that has left the basket, or takes it back. -/
theorem HasReached.apply (h : HasReached user id target l) (hw : l.WellFormed)
    (hbeyond : .inBasket < target) (event : OrderEvent) :
    HasReached user id target (l.apply event) := by
  obtain ⟨o, ho, owner, hle⟩ := h
  rcases apply_cases l event with ⟨_, _, _, he⟩ | ⟨horders, -⟩
  · cases ho' : (l.apply event).orders.get? id with
    | none =>
      -- Only an order in the basket is deleted.
      obtain ⟨inBasket, -⟩ := he.deleted_of_get?_eq_none ho ho'
      have hstatus : o.status = OrderStatus.inBasket.code := by
        simpa [StoredOrder.isInBasket] using inBasket
      rw [hstatus] at hle
      exact (Int16.not_le.mpr (OrderStatus.lt_def.mp hbeyond) hle).elim
    | some o' =>
      have hstep := he.historyStep hw ho ho'
      exact ⟨o', ho', hstep.owner_eq.trans owner, Int16.le_trans hle hstep.status_le⟩
  · exact ⟨o, by rw [horders, ho], owner, hle⟩

theorem HasReached.replay (h : HasReached user id target l) (hw : l.WellFormed)
    (hbeyond : .inBasket < target) (events : List OrderEvent) :
    HasReached user id target (l.replay events) := by
  induction events generalizing l with
  | nil => exact h
  | cons event events ih => exact ih (h.apply hw hbeyond event) (hw.apply event)

/-- An order does not move to a status that it has reached. -/
theorem HasReached.moveRefusal (h : HasReached user id target l) (hw : l.WellFormed) :
    ∃ current, target ≤ current ∧
      MoveRefusal user target id l (.statusMustIncrease current target) := by
  obtain ⟨o, ho, owner, hle⟩ := h
  obtain ⟨current, hstatus⟩ := (hw.orders ho).status
  rw [hstatus] at hle
  have hle : target ≤ current := OrderStatus.le_def.mpr hle
  exact ⟨current, hle, .status ho owner hstatus (OrderStatus.not_lt.mpr hle)⟩

/-! ## The outcome of a status update -/

/-- The product of an order is missing, or has fewer pieces than the order asks for. -/
def Lacks (l : Ledger) (o : StoredOrder) : Prop :=
  ∀ p, l.products.get? o.product = some p → p.available < o.count

/-- An order moves forward unless it is in the basket and its product lacks the pieces. -/
theorem exists_moved {current : OrderStatus} (found : l.orders.get? id = some o)
    (owner : o.owner = user) (status : o.status = current.code) (forward : current < target)
    (enough : ¬ (current = .inBasket ∧ l.Lacks o)) (now : Instant) :
    ∃ l', Moved now user target id l l' := by
  by_cases hbasket : current = .inBasket
  · subst hbasket
    have hstock : ¬ l.Lacks o := fun h => enough ⟨rfl, h⟩
    simp only [Lacks, not_forall, Int32.not_lt] at hstock
    obtain ⟨p, product, hle⟩ := hstock
    exact ⟨_, .leave found owner status forward product hle⟩
  · exact ⟨_, .onward found owner status hbasket forward⟩

theorem perform_setStatus_of_moved (h : Moved now user target id l l') :
    (l.perform now (.setStatus user id target)).result = .ok .nothing ∧
      (l.perform now (.setStatus user id target)).state = l' :=
  perform_of_returns (Work.map_returns.mpr ⟨(), moveOrder_returns.mpr h, rfl⟩)

/-- **The outcome of a status update.** In a ledger that can arise, the update of an order that is
not the user's is refused. That of the user's order is refused if its status would not grow, then if
it is in the basket and its product lacks the pieces. All others succeed: the order has the new
status and the time of the call, and exactly if it was in the basket its product has as many pieces
less; nothing else changes. From then on the same update is refused, whatever happens in between. -/
theorem status_update_outcome (hl : l.Reachable) (now : Instant) (user : UserId) (id : OrderId)
    (target : OrderStatus) :
    let update := OrderCall.setStatus user id target
    let done := l.perform now update
    (done.result = .error (.orderNotFound id) ↔ l.ownOrder? user id = none) ∧
    (∀ o, l.ownOrder? user id = some o → ∃ current : OrderStatus, o.status = current.code ∧
      (done.result = .error (.statusMustIncrease current target) ↔ target ≤ current) ∧
      (current < target →
        (done.result = .error (.noAffectedRows .stockDecrement) ↔
          current = .inBasket ∧ l.Lacks o) ∧
        (¬ (current = .inBasket ∧ l.Lacks o) → done.result = .ok .nothing ∧
          Rewrites id { o with status := target.code, updatedAt := now } l done.state ∧
          (current = .inBasket → StockTaken o.product o.count l done.state) ∧
          (done.state.products = l.products ↔ current ≠ .inBasket) ∧
          ∀ events later, ∃ reached, target ≤ reached ∧
            ((done.state.replay events).perform later update).result
              = .error (.statusMustIncrease reached target)))) ∧
    (∀ e, done.result = .error e → done.state = l) ∧
    GuardedWrite.stockDecrement.label = "product stock decrement" := by
  intro update done
  have hw := hl.wellFormed
  refine ⟨?_, fun o ho => ?_, fun _ => perform_state_of_error, rfl⟩
  · rw [perform_setStatus_eq_error_iff hw, ownOrder?_eq_none_iff]
    constructor
    · rintro ⟨foreign⟩
      exact foreign
    · exact .order
  obtain ⟨found, owner⟩ := ownOrder?_eq_some_iff.mp ho
  obtain ⟨current, status⟩ := (hw.orders found).status
  refine ⟨current, status, ?_, fun forward => ⟨?_, fun enough => ?_⟩⟩
  · rw [perform_setStatus_eq_error_iff hw, ← OrderStatus.not_lt]
    constructor
    · intro h
      cases h with
      | status _ _ _ back => exact back
    · exact .status found owner status
  · rw [perform_setStatus_eq_error_iff hw]
    constructor
    · intro h
      cases h with
      | stock found' _ status' _ short =>
        obtain rfl := Option.some.inj (found'.symm.trans found)
        exact ⟨OrderStatus.code_inj.mp (status.symm.trans status'), short⟩
    · rintro ⟨rfl, short⟩
      exact .stock found owner status forward short
  · obtain ⟨l', move⟩ := exists_moved found owner status forward enough now
    obtain ⟨hresult, hstate⟩ := perform_setStatus_of_moved move
    have hrewrites := move.rewrites found
    have hcount := (hw.orders found).count_pos
    obtain ⟨htakes, hproducts⟩ := move.stockTaken found status hcount
    refine ⟨hresult, ?_⟩
    rw [show done.state = l' from hstate]
    refine ⟨hrewrites, htakes, ⟨fun heq hbasket => ?_, hproducts⟩, fun events later => ?_⟩
    · exact (htakes hbasket).products_ne hcount heq
    · -- A status above `current` is beyond the basket, and from there it never falls.
      have hw' : l'.WellFormed := hw.moved move
      have hbeyond : .inBasket < target := by
        cases current <;> cases target <;> revert forward <;> decide
      have hreached : HasReached user id target l' :=
        ⟨_, hrewrites.written, owner, Int16.le_refl _⟩
      obtain ⟨reached, hle, hrefusal⟩ :=
        (hreached.replay hw' hbeyond events).moveRefusal (hw'.replay events)
      exact ⟨reached, hle, (perform_setStatus_eq_error_iff (hw'.replay events)).mpr hrefusal⟩

/-- Four kettles are paid for straight from the basket, once. -/
theorem status_update_outcome_shop :
    let o := StoredOrder.fresh 1 7 1 4 .epoch
    let update := OrderCall.setStatus 7 1 .paid
    let done := shop.perform .epoch update
    shop.Reachable ∧ shop.ownOrder? 7 1 = some o ∧ ¬ shop.Lacks o ∧ done.result = .ok .nothing ∧
      StockTaken 1 4 shop done.state ∧ ∀ events later, ∃ reached, .paid ≤ reached ∧
        ((done.state.replay events).perform later update).result
          = .error (.statusMustIncrease reached .paid) := by
  intro o update done
  have ho : shop.ownOrder? 7 1 = some o := by decide
  have henough : ¬ shop.Lacks o := fun h => absurd (h kettles (by decide)) (by decide)
  obtain ⟨-, houtcome, -⟩ := status_update_outcome shop_reachable .epoch 7 1 .paid
  obtain ⟨current, hstatus, -, hforward⟩ := houtcome o ho
  obtain rfl : .inBasket = current := OrderStatus.code_inj.mp hstatus
  obtain ⟨hresult, -, htakes, -, hrepeat⟩ := (hforward (by decide)).2 fun h => henough h.2
  exact ⟨shop_reachable, ho, henough, hresult, htakes rfl, hrepeat⟩

/-! ## The outcome of a count update -/

theorem perform_setCount_of_enough (now : Instant) (positive : 0 < count)
    (found : l.orders.get? id = some o) (owner : o.owner = user) (inBasket : o.isInBasket)
    (product : l.products.get? o.product = some p) (active : p.isActive)
    (enough : count ≤ p.available) :
    (l.perform now (.setCount user id count)).result = .ok .nothing ∧
      (l.perform now (.setCount user id count)).state = l.storeOrder id (o.recounted count now) :=
  perform_of_returns (Work.map_returns.mpr ⟨(), setCount_returns.mpr
    ⟨o, p, positive, found, owner, inBasket, product, active, enough, rfl⟩, rfl⟩)

/-- **The outcome of a count update.** In a ledger that can arise, an update is refused for its
count, for an order that is not the user's, for one that has left the basket, for a product that is
missing or withdrawn, and for a stock that is less than the count, in this order; the counts in
baskets play no role. All others succeed, and change nothing but the count of the order and its
time. -/
theorem count_update_outcome (hl : l.Reachable) (now : Instant) (user : UserId) (id : OrderId)
    (count : Int32) :
    let done := l.perform now (.setCount user id count)
    (count ≤ 0 → done.result = .error (.invalidCount count)) ∧
    (0 < count →
      (l.ownOrder? user id = none → done.result = .error (.orderNotFound id)) ∧
      ∀ o, l.ownOrder? user id = some o →
        (o.isInBasket = false → done.result = .error (.orderNotInBasket id)) ∧
        (o.isInBasket →
          ((∀ p, l.products.get? o.product = some p → p.isActive = false) →
            done.result = .error (.productNotFound o.product)) ∧
          ∀ p, l.products.get? o.product = some p → p.isActive →
            (p.available < count →
              done.result = .error (.insufficientStock count p.available)) ∧
            (count ≤ p.available → done.result = .ok .nothing ∧
              Rewrites id { o with count, updatedAt := now } l done.state ∧
              done.state.products = l.products))) ∧
    ∀ e, done.result = .error e → done.state = l := by
  intro done
  have hw := hl.wellFormed
  have hrefused {e : OrderError} (h : Refusal now l (.setCount user id count) e) :
      done.result = .error e := (perform_setCount_eq_error_iff hw).mpr h
  refine ⟨fun notPositive => ?_, fun positive => ⟨fun hnone => ?_, fun o ho => ?_⟩,
    fun _ => perform_state_of_error⟩
  · exact hrefused (.count (Int32.not_lt.mpr notPositive))
  · exact hrefused (.order positive (ownOrder?_eq_none_iff.mp hnone))
  obtain ⟨found, owner⟩ := ownOrder?_eq_some_iff.mp ho
  refine ⟨fun left => ?_, fun inBasket => ⟨fun inactive => ?_, fun p hp active => ⟨fun short => ?_,
    fun enough => ?_⟩⟩⟩
  · exact hrefused (.basket positive found owner left)
  · exact hrefused (.reserve positive found owner inBasket (.product positive inactive))
  · exact hrefused (.reserve positive found owner inBasket (.stock positive hp active short))
  · obtain ⟨hresult, hstate⟩ :=
      perform_setCount_of_enough now positive found owner inBasket hp active enough
    refine ⟨hresult, ?_⟩
    rw [show done.state = _ from hstate]
    exact ⟨rewrites_storeOrder l id _, rfl⟩

/-- One order asks for all ten kettles, though another one in the basket asks for three. -/
theorem count_update_outcome_shop :
    let done := shop.perform .epoch (.setCount 7 1 10)
    shop.Reachable ∧ shop.ownOrder? 7 1 = some (.fresh 1 7 1 4 .epoch) ∧
      done.result = .ok .nothing ∧ Rewrites 1 (.fresh 1 7 1 10 .epoch) shop done.state ∧
      (shop.perform .epoch (.setCount 7 1 11)).result = .error (.insufficientStock 11 10) := by
  intro done
  have ho : shop.ownOrder? 7 1 = some (.fresh 1 7 1 4 .epoch) := by decide
  have hp : shop.products.get? 1 = some kettles := by decide
  have hten := ((count_update_outcome shop_reachable .epoch 7 1 10).2.1 (by decide)).2 _ ho
  have heleven := ((count_update_outcome shop_reachable .epoch 7 1 11).2.1 (by decide)).2 _ ho
  obtain ⟨hresult, hrewrites, -⟩ := ((hten.2 rfl).2 kettles hp rfl).2 (by decide)
  exact ⟨shop_reachable, ho, hresult, hrewrites, ((heleven.2 rfl).2 kettles hp rfl).1 (by decide)⟩

end Ledger

end Marketplace
