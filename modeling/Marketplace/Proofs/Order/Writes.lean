import Marketplace.Proofs.Order.Listing

/-!
# What the writes of a call rely on

`Ledger.Relied q l` is what work takes for granted when it asks the question `q` of the ledger `l`:
only positive counts are taken or stored, and a row that was read with a status still has it. The
work of a call asks no question without it (`work_relied`), wherever it stops and whether or not its
transaction is kept.
-/

namespace Marketplace

namespace Ledger

/-- What holds of the ledger whenever a question reaches it. -/
def Relied : {β : Type} → OrderQuery β → Ledger → Prop
  | _, .decrementStock _ count, _ => 0 < count
  | _, .insertOrder o, _ => 0 < o.count
  | _, .writeStatus id source _, l => ∃ o, l.orders.get? id = some o ∧ o.status = source.code
  | _, .writeCount id owner count, l => 0 < count ∧ ∃ o, l.basketOrder? id owner = some o
  | _, _, _ => True

variable {now : Instant} {l : Ledger} {user : UserId} {count : Int32}

/-! ## Work -/

theorem reserve_relied (id : ProductId) (count : Int32) :
    (reserve id count).Along (answer now) Relied l := by
  refine Work.bind_along.mpr ⟨Work.require_along, fun _ l₁ _ => ?_⟩
  refine Work.bind_along.mpr ⟨Work.query_along.mpr trivial, fun p l₂ _ => ?_⟩
  refine Work.bind_along.mpr ⟨Work.orFail_along, fun p l₃ _ => ?_⟩
  dsimp only
  split
  · exact Work.bind_along.mpr ⟨Work.log_along, fun _ _ _ => Work.fail_along⟩
  · exact Work.done_along

theorem commitStock_relied {id : ProductId} (positive : 0 < count) :
    (commitStock id count).Along (answer now) Relied l :=
  Work.bind_along.mpr ⟨Work.query_along.mpr positive, fun _ _ _ => Work.require_along⟩

theorem moveOrder_relied (hw : l.WellFormed) (id : OrderId) (target : OrderStatus) :
    (moveOrder id user target).Along (answer now) Relied l := by
  unfold moveOrder
  refine Work.bind_along.mpr ⟨Work.query_along.mpr trivial, fun r l₁ hr => ?_⟩
  refine Work.bind_along.mpr ⟨Work.orFail_along, fun held l₂ hheld => ?_⟩
  obtain ⟨rfl, rfl⟩ := Work.orFail_returns.mp hheld
  obtain ⟨⟨o, found, -, status, hcount, -⟩, rfl⟩ := lockOrder_returns.mp hr
  refine Work.bind_along.mpr ⟨Work.require_along, fun _ l₃ hreq => ?_⟩
  obtain ⟨-, rfl⟩ := Work.require_returns.mp hreq
  -- The stock is another table, so the order still has the status that was read.
  have hwrite (l₄ : Ledger) (h : l₄.orders.get? id = some o) (line : LogLine) : (do
      let affected ← Work.query (.writeStatus id held.status target)
      Work.require (affected ≠ 0) (.noAffectedRows .statusUpdate)
      Work.log line : OrderWork Unit).Along (answer now) Relied l₄ := by
    refine Work.bind_along.mpr ⟨Work.query_along.mpr ⟨o, h, status⟩, fun _ _ _ => ?_⟩
    exact Work.bind_along.mpr ⟨Work.require_along, fun _ _ _ => Work.log_along⟩
  split
  · have positive : 0 < held.count := hcount ▸ (hw.orders found).count_pos
    refine Work.bind_along.mpr ⟨commitStock_relied positive, fun _ l₄ hc => ?_⟩
    obtain ⟨p, -, -, rfl⟩ := commitStock_returns.mp hc
    exact hwrite (l.takeStock held.product p held.count) found _
  · exact hwrite l found _

theorem buyOrders_relied (hw : l.WellFormed) (ids : List OrderId) :
    (buyOrders user ids).Along (answer now) Relied l := by
  induction ids generalizing l with
  | nil => exact Work.done_along
  | cons id ids ih =>
    refine Work.bind_along.mpr ⟨moveOrder_relied hw id _, fun _ l₁ first => ?_⟩
    exact ih (hw.moved (moveOrder_returns.mp first))

theorem buyBasket_relied (hw : l.WellFormed) (user : UserId) :
    (buyBasket user).Along (answer now) Relied l := by
  refine Work.bind_along.mpr ⟨Work.query_along.mpr trivial, fun ids l₁ hids => ?_⟩
  obtain ⟨-, rfl⟩ := Work.query_returns.mp hids
  refine Work.bind_along.mpr ⟨Work.require_along, fun _ l₂ hreq => ?_⟩
  obtain ⟨-, rfl⟩ := Work.require_returns.mp hreq
  exact Work.bind_along.mpr ⟨buyOrders_relied hw ids, fun _ _ _ => Work.done_along⟩

theorem addToBasket_relied (user : UserId) (id : ProductId) (count : Int32) :
    (addToBasket user id count).Along (answer now) Relied l := by
  refine Work.bind_along.mpr ⟨reserve_relied id count, fun p l₁ hp => ?_⟩
  obtain ⟨⟨positive, -⟩, -⟩ := reserve_returns.mp hp
  refine Work.bind_along.mpr ⟨Work.query_along.mpr positive, fun _ _ _ => ?_⟩
  refine Work.bind_along.mpr ⟨Work.query_along.mpr trivial, fun _ _ _ => ?_⟩
  exact Work.bind_along.mpr ⟨Work.query_along.mpr trivial, fun _ _ _ => Work.done_along⟩

theorem setCount_relied (user : UserId) (id : OrderId) (count : Int32) :
    (setCount user id count).Along (answer now) Relied l := by
  unfold setCount
  refine Work.bind_along.mpr ⟨Work.require_along, fun _ l₁ hpos => ?_⟩
  obtain ⟨positive, rfl⟩ := Work.require_returns.mp hpos
  refine Work.bind_along.mpr ⟨Work.query_along.mpr trivial, fun r l₂ hr => ?_⟩
  refine Work.bind_along.mpr ⟨Work.orFail_along, fun held l₃ hheld => ?_⟩
  obtain ⟨rfl, rfl⟩ := Work.orFail_returns.mp hheld
  obtain ⟨⟨o, found, owner, status, -, -⟩, rfl⟩ := lockOrder_returns.mp hr
  refine Work.bind_along.mpr ⟨Work.require_along, fun _ l₄ hreq => ?_⟩
  obtain ⟨inBasket, rfl⟩ := Work.require_returns.mp hreq
  refine Work.bind_along.mpr ⟨Work.discard_along.mpr (reserve_relied _ _), fun _ l₅ hres => ?_⟩
  obtain ⟨p, hp⟩ := Work.discard_returns.mp hres
  obtain ⟨-, rfl⟩ := reserve_returns.mp hp
  have hbasket : o.isInBasket := by simp [StoredOrder.isInBasket, status, inBasket]
  refine Work.bind_along.mpr ⟨Work.query_along.mpr ⟨positive, o, ?_⟩, fun _ _ _ =>
    Work.require_along⟩
  exact basketOrder?_eq_some_iff.mpr ⟨found, owner, hbasket⟩

theorem adorn_relied (viewer : UserId) (rows : List OrderRow) :
    (adorn viewer rows).Along (answer now) Relied l := by
  unfold adorn
  dsimp only
  split
  · exact Work.done_along
  · refine Work.bind_along.mpr ⟨Work.query_along.mpr trivial, fun _ _ _ => ?_⟩
    exact Work.bind_along.mpr ⟨Work.query_along.mpr trivial, fun _ _ _ => Work.done_along⟩

theorem listOrders_relied (filter : OrderFilter) (viewer : UserId) :
    (listOrders filter viewer).Along (answer now) Relied l := by
  refine Work.bind_along.mpr ⟨Work.query_along.mpr trivial, fun rows _ _ => ?_⟩
  exact Work.bind_along.mpr ⟨adorn_relied viewer rows, fun _ _ _ => Work.ofExcept_along⟩

/-- **No question is asked without what it relies on.** -/
theorem work_relied (hw : l.WellFormed) (now : Instant) (call : OrderCall) :
    call.work.Along (answer now) Relied l := by
  cases call with
  | add user id count => exact Work.map_along.mpr (addToBasket_relied user id count)
  | setCount user id count => exact Work.map_along.mpr (setCount_relied user id count)
  | setStatus user id target => exact Work.map_along.mpr (moveOrder_relied hw id target)
  | buy user => exact Work.map_along.mpr (buyBasket_relied hw user)
  | delete user id =>
    refine Work.map_along.mpr (Work.bind_along.mpr ⟨Work.query_along.mpr trivial, fun _ _ _ => ?_⟩)
    exact Work.require_along
  | basket user =>
    refine Work.map_along.mpr (Work.bind_along.mpr ⟨Work.query_along.mpr trivial, fun rows _ _ => ?_⟩)
    exact Work.bind_along.mpr ⟨adorn_relied user rows, fun _ _ _ => Work.done_along⟩
  | bought user => exact Work.map_along.mpr (listOrders_relied _ user)
  | sold user => exact Work.map_along.mpr (listOrders_relied _ user)

end Ledger

end Marketplace
