import Marketplace.Proofs.Order.Listing

/-!
# Why a call is refused

`Ledger.Refusal l call e` lists the errors that a call can end with on a well-formed ledger, each
with the guards that let the call come so far and the one that stopped it. `perform_refusal` shows
that the list is complete, as `Effect` and `perform_effect` do for successful calls.

A stored status that means nothing, and a status that is no longer the one that was read, are not
among the causes.
-/

namespace Marketplace

namespace Ledger

/-- Why pieces of a product are not set aside. -/
inductive ReserveRefusal (l : Ledger) (id : ProductId) (count : Int32) : OrderError → Prop where
  | count (notPositive : ¬ 0 < count) : ReserveRefusal l id count (.invalidCount count)
  | product (positive : 0 < count)
      (inactive : ∀ p, l.products.get? id = some p → p.isActive = false) :
      ReserveRefusal l id count (.productNotFound id)
  | stock {p : Product} (positive : 0 < count) (found : l.products.get? id = some p)
      (active : p.isActive) (short : p.available < count) :
      ReserveRefusal l id count (.insufficientStock count p.available)

/-- Why an order of `user` does not move to `target`. -/
inductive MoveRefusal (user : UserId) (target : OrderStatus) (id : OrderId) (l : Ledger) :
    OrderError → Prop where
  | order (foreign : ∀ o, l.orders.get? id = some o → o.owner ≠ user) :
      MoveRefusal user target id l (.orderNotFound id)
  | status {o : StoredOrder} {source : OrderStatus} (found : l.orders.get? id = some o)
      (owner : o.owner = user) (status : o.status = source.code) (back : ¬ source < target) :
      MoveRefusal user target id l (.statusMustIncrease source target)
  | stock {o : StoredOrder} (found : l.orders.get? id = some o) (owner : o.owner = user)
      (status : o.status = OrderStatus.inBasket.code) (forward : .inBasket < target)
      (short : ∀ p, l.products.get? o.product = some p → p.available < o.count) :
      MoveRefusal user target id l (.noAffectedRows .stockDecrement)

/-- The errors that a call can end with. -/
inductive Refusal (now : Instant) (l : Ledger) : OrderCall → OrderError → Prop where
  | add {user : UserId} {id : ProductId} {count : Int32} {e : OrderError}
      (reserve : ReserveRefusal l id count e) : Refusal now l (.add user id count) e
  | identifier {user : UserId} {id : ProductId} {count : Int32} {p : Product}
      (positive : 0 < count) (product : l.products.get? id = some p) (active : p.isActive)
      (enough : count ≤ p.available) (last : l.lastOrder = Int64.maxValue) :
      Refusal now l (.add user id count) .identifiersUsedUp
  | count {user : UserId} {id : OrderId} {count : Int32} (notPositive : ¬ 0 < count) :
      Refusal now l (.setCount user id count) (.invalidCount count)
  | order {user : UserId} {id : OrderId} {count : Int32} (positive : 0 < count)
      (foreign : ∀ o, l.orders.get? id = some o → o.owner ≠ user) :
      Refusal now l (.setCount user id count) (.orderNotFound id)
  | basket {user : UserId} {id : OrderId} {count : Int32} {o : StoredOrder} (positive : 0 < count)
      (found : l.orders.get? id = some o) (owner : o.owner = user) (left : o.isInBasket = false) :
      Refusal now l (.setCount user id count) (.orderNotInBasket id)
  | reserve {user : UserId} {id : OrderId} {count : Int32} {o : StoredOrder} {e : OrderError}
      (positive : 0 < count) (found : l.orders.get? id = some o) (owner : o.owner = user)
      (inBasket : o.isInBasket) (reserve : ReserveRefusal l o.product count e) :
      Refusal now l (.setCount user id count) e
  | move {user : UserId} {id : OrderId} {target : OrderStatus} {e : OrderError}
      (move : MoveRefusal user target id l e) : Refusal now l (.setStatus user id target) e
  | empty {user : UserId} (none : l.basketIds user = []) : Refusal now l (.buy user) .noOrdersToBuy
  /-- The first order that does not move, behind those that have. -/
  | purchase {user : UserId} {ids later : List OrderId} {id : OrderId} {l₁ : Ledger}
      {e : OrderError} (listed : l.basketIds user = ids ++ id :: later)
      (moves : Bought now user ids l l₁) (move : MoveRefusal user .inProcessing id l₁ e) :
      Refusal now l (.buy user) e
  | delete {user : UserId} {id : OrderId} (missing : l.basketOrder? id user = none) :
      Refusal now l (.delete user id) (.noAffectedRows .basketDelete)

/-! ## What the store answers -/

section Answers

variable {now : Instant} {l l' : Ledger} {e : OrderError}

theorem not_lockProduct_fails {id : ProductId} :
    ¬ (Work.query (.lockProduct id) : OrderWork _).Fails (answer now) l e l' := by
  simp [Work.query_fails, answer, Outcome.ok]

theorem lockOrder_returns_none {id : OrderId} {user : UserId} :
    (Work.query (.lockOrder id user) : OrderWork _).Returns (answer now) l none l' ↔
      (∀ o, l.orders.get? id = some o → o.owner ≠ user) ∧ l = l' := by
  rw [Work.query_returns]
  simp only [answer]
  cases hf : (l.orders.get? id).filter (·.owner = user) with
  | none =>
    have hn : ∀ o, l.orders.get? id = some o → o.owner ≠ user := by
      simpa [Option.filter_eq_none_iff] using hf
    simpa [Outcome.ok] using fun _ => hn
  | some o =>
    obtain ⟨ho, hu⟩ := Option.filter_eq_some_iff.mp hf
    have hn : ¬ ∀ o, l.orders.get? id = some o → o.owner ≠ user :=
      fun h => h o ho (by simpa using hu)
    cases hs : OrderStatus.ofCode? o.status <;> simp only [hs, Outcome.ok, Outcome.error, hn] <;> simp

/-- In a well-formed ledger every stored status can be read. -/
theorem not_lockOrder_fails (hw : l.WellFormed) {id : OrderId} {user : UserId} :
    ¬ (Work.query (.lockOrder id user) : OrderWork _).Fails (answer now) l e l' := by
  rw [Work.query_fails]
  simp only [answer]
  cases hf : (l.orders.get? id).filter (·.owner = user) with
  | none => simp [Outcome.ok]
  | some o =>
    obtain ⟨s, hs⟩ := (hw.orders (Option.filter_eq_some_iff.mp hf).1).status
    simp [hs, Outcome.ok]

theorem basketOrderIds_returns {user : UserId} {ids : List OrderId} :
    (Work.query (.basketOrderIds user) : OrderWork _).Returns (answer now) l ids l' ↔
      l.basketIds user = ids ∧ l = l' := by
  simp only [Work.query_returns, answer, Outcome.ok, Except.ok.injEq]
  rfl

/-- A guarded write never fails; it changes no row if its guard picks none. -/
theorem guarded_cases {γ : Type} {q : OrderQuery Nat} {row : Option γ} {write : γ → Ledger}
    (h : answer now q l = row.elim (.ok 0 l) fun a => .ok 1 (write a)) :
    (¬ (Work.query q : OrderWork _).Fails (answer now) l e l') ∧
      ∀ n, (Work.query q : OrderWork _).Returns (answer now) l n l' → n = 0 → row = none ∧ l = l' := by
  rw [Work.query_fails]
  simp only [Work.query_returns, h]
  cases row with
  | none => simp [Outcome.ok]
  | some a =>
    refine ⟨by simp [Outcome.ok], ?_⟩
    rintro n ⟨hn, -⟩ rfl
    simp [Outcome.ok] at hn

end Answers

/-! ## Where work fails -/

section Fails

variable {now : Instant} {l l' : Ledger} {e : OrderError} {user : UserId}

theorem reserve_fails {id : ProductId} {count : Int32}
    (h : (reserve id count).Fails (answer now) l e l') : ReserveRefusal l id count e := by
  unfold reserve at h
  rcases Work.bind_fails.mp h with h | ⟨_, _, hreq, h⟩
  · obtain ⟨hpos, rfl, -⟩ := Work.require_fails.mp h
    exact .count hpos
  obtain ⟨hpos, rfl⟩ := Work.require_returns.mp hreq
  rcases Work.bind_fails.mp h with h | ⟨_, _, hlock, h⟩
  · exact (not_lockProduct_fails h).elim
  obtain ⟨rfl, rfl⟩ := lockProduct_returns.mp hlock
  rcases Work.bind_fails.mp h with h | ⟨p, _, hsome, h⟩
  · obtain ⟨hnone, rfl, -⟩ := Work.orFail_fails.mp h
    exact .product hpos (by simpa [Option.filter_eq_none_iff] using hnone)
  obtain ⟨hfound, rfl⟩ := Work.orFail_returns.mp hsome
  obtain ⟨hp, hactive⟩ := Option.filter_eq_some_iff.mp hfound
  dsimp only at h
  split at h
  · rename_i hshort
    simp only [Work.bind_fails, Work.not_log_fails, Work.fail_fails, false_or] at h
    obtain ⟨_, _, -, rfl, -⟩ := h
    exact .stock hpos hp hactive hshort
  · exact (Work.not_done_fails h).elim

theorem commitStock_fails {id : ProductId} {count : Int32}
    (h : (commitStock id count).Fails (answer now) l e l') :
    e = .noAffectedRows .stockDecrement ∧
      ∀ p, l.products.get? id = some p → p.available < count := by
  have hq := answer_decrementStock now id count l
  unfold commitStock at h
  rcases Work.bind_fails.mp h with h | ⟨n, _, hn, h⟩
  · exact ((guarded_cases hq).1 h).elim
  obtain ⟨hzero, he, -⟩ := Work.require_fails.mp h
  obtain ⟨hnone, -⟩ := (guarded_cases (e := e) hq).2 n hn (by simpa using hzero)
  refine ⟨he.symm, fun p hp => ?_⟩
  rw [hp, Option.filter_some] at hnone
  simpa using hnone

/-- The status of an order that is there, with the one that was read, is always written. -/
theorem not_writeStatus_fails {id : OrderId} {o : StoredOrder} {source target : OrderStatus}
    {line : LogLine} (found : l.orders.get? id = some o) (status : o.status = source.code) :
    ¬ (do
      let affected ← Work.query (.writeStatus id source target)
      Work.require (affected ≠ 0) (.noAffectedRows .statusUpdate)
      Work.log line : OrderWork Unit).Fails (answer now) l e l' := by
  have hq := answer_writeStatus now id source target l
  intro h
  rcases Work.bind_fails.mp h with h | ⟨n, _, hn, h⟩
  · exact (guarded_cases hq).1 h
  rcases Work.bind_fails.mp h with h | ⟨_, _, -, h⟩
  · obtain ⟨hzero, -, -⟩ := Work.require_fails.mp h
    obtain ⟨hnone, -⟩ := (guarded_cases (e := e) hq).2 n hn (by simpa using hzero)
    simp [found, status] at hnone
  · exact Work.not_log_fails h

theorem moveOrder_fails (hw : l.WellFormed) {id : OrderId} {target : OrderStatus}
    (h : (moveOrder id user target).Fails (answer now) l e l') : MoveRefusal user target id l e := by
  unfold moveOrder at h
  rcases Work.bind_fails.mp h with h | ⟨r, _, hr, h⟩
  · exact (not_lockOrder_fails hw h).elim
  rcases Work.bind_fails.mp h with h | ⟨held, _, hheld, h⟩
  · obtain ⟨rfl, rfl, -⟩ := Work.orFail_fails.mp h
    exact .order (lockOrder_returns_none.mp hr).1
  obtain ⟨rfl, rfl⟩ := Work.orFail_returns.mp hheld
  obtain ⟨⟨o, found, owner, status, count, product⟩, rfl⟩ := lockOrder_returns.mp hr
  rcases Work.bind_fails.mp h with h | ⟨_, _, hreq, h⟩
  · obtain ⟨hlt, rfl, -⟩ := Work.require_fails.mp h
    exact .status found owner status hlt
  obtain ⟨hlt, rfl⟩ := Work.require_returns.mp hreq
  by_cases hb : held.status = .inBasket
  · rw [if_pos hb] at h
    rcases Work.bind_fails.mp h with h | ⟨_, _, hc, h⟩
    · obtain ⟨rfl, hshort⟩ := commitStock_fails h
      rw [hb] at status hlt
      exact .stock found owner status hlt fun p hp => by
        rw [count]
        exact hshort p (product ▸ hp)
    · obtain ⟨p, -, -, rfl⟩ := commitStock_returns.mp hc
      have found : (l.takeStock held.product p held.count).orders.get? id = some o := found
      exact (not_writeStatus_fails found status h).elim
  · rw [if_neg hb] at h
    exact (not_writeStatus_fails found status h).elim

theorem buyOrders_fails (hw : l.WellFormed) {ids : List OrderId}
    (h : (buyOrders user ids).Fails (answer now) l e l') :
    ∃ before id later l₁, ids = before ++ id :: later ∧ Bought now user before l l₁ ∧
      MoveRefusal user .inProcessing id l₁ e := by
  induction ids generalizing l with
  | nil => exact (Work.not_done_fails h).elim
  | cons id ids ih =>
    rcases Work.bind_fails.mp h with h | ⟨_, l₁, first, h⟩
    · exact ⟨[], id, ids, l, rfl, .nil, moveOrder_fails hw h⟩
    · have first := moveOrder_returns.mp first
      obtain ⟨before, id', later, l₂, rfl, rest, move⟩ := ih (hw.moved first) h
      exact ⟨id :: before, id', later, l₂, rfl, .cons first rest, move⟩

theorem buyBasket_fails (hw : l.WellFormed) (h : (buyBasket user).Fails (answer now) l e l') :
    Refusal now l (.buy user) e := by
  unfold buyBasket at h
  rcases Work.bind_fails.mp h with h | ⟨ids, _, hids, h⟩
  · simp [Work.query_fails, answer, Outcome.ok] at h
  obtain ⟨rfl, rfl⟩ := basketOrderIds_returns.mp hids
  rcases Work.bind_fails.mp h with h | ⟨_, _, hreq, h⟩
  · obtain ⟨hempty, rfl, -⟩ := Work.require_fails.mp h
    exact .empty (by simpa using hempty)
  obtain ⟨-, rfl⟩ := Work.require_returns.mp hreq
  rcases Work.bind_fails.mp h with h | ⟨_, _, -, h⟩
  · obtain ⟨before, id, later, l₁, listed, moves, move⟩ := buyOrders_fails hw h
    exact .purchase listed moves move
  · exact (Work.not_done_fails h).elim

theorem addToBasket_fails {id : ProductId} {count : Int32}
    (h : (addToBasket user id count).Fails (answer now) l e l') :
    Refusal now l (.add user id count) e := by
  unfold addToBasket at h
  rcases Work.bind_fails.mp h with h | ⟨p, _, hreserve, h⟩
  · exact .add (reserve_fails h)
  obtain ⟨⟨hpos, hp, hactive, henough⟩, rfl⟩ := reserve_returns.mp hreserve
  rcases Work.bind_fails.mp h with h | ⟨a, l₁, -, h⟩
  · rw [Work.query_fails] at h
    simp only [answer] at h
    split at h
    · rename_i hlast
      obtain ⟨rfl⟩ : OrderError.identifiersUsedUp = e := by simpa [Outcome.error] using h.1
      exact .identifier hpos hp hactive henough hlast
    · cases h.1
  · simp [Work.bind_fails, Work.query_fails, answer, Outcome.ok] at h

theorem setCount_fails (hw : l.WellFormed) {id : OrderId} {count : Int32}
    (h : (setCount user id count).Fails (answer now) l e l') :
    Refusal now l (.setCount user id count) e := by
  have hq := answer_writeCount now id user count l
  unfold setCount at h
  rcases Work.bind_fails.mp h with h | ⟨_, _, hreq, h⟩
  · obtain ⟨hpos, rfl, -⟩ := Work.require_fails.mp h
    exact .count hpos
  obtain ⟨hpos, rfl⟩ := Work.require_returns.mp hreq
  rcases Work.bind_fails.mp h with h | ⟨r, _, hr, h⟩
  · exact (not_lockOrder_fails hw h).elim
  rcases Work.bind_fails.mp h with h | ⟨held, _, hheld, h⟩
  · obtain ⟨rfl, rfl, -⟩ := Work.orFail_fails.mp h
    exact .order hpos (lockOrder_returns_none.mp hr).1
  obtain ⟨rfl, rfl⟩ := Work.orFail_returns.mp hheld
  obtain ⟨⟨o, found, owner, status, -, product⟩, rfl⟩ := lockOrder_returns.mp hr
  have hstatus : o.isInBasket = decide (held.status = .inBasket) := by
    simp [StoredOrder.isInBasket, status, OrderStatus.code_inj]
  rcases Work.bind_fails.mp h with h | ⟨_, _, hreq, h⟩
  · obtain ⟨hb, rfl, -⟩ := Work.require_fails.mp h
    exact .basket hpos found owner (hstatus.trans (by simpa using hb))
  obtain ⟨hb, rfl⟩ := Work.require_returns.mp hreq
  have hbasket : o.isInBasket := hstatus.trans (by simpa using hb)
  rcases Work.bind_fails.mp h with h | ⟨_, _, hreserve, h⟩
  · exact .reserve hpos found owner hbasket (product ▸ reserve_fails (Work.discard_fails.mp h))
  obtain ⟨p, hp⟩ := Work.discard_returns.mp hreserve
  obtain ⟨-, rfl⟩ := reserve_returns.mp hp
  rcases Work.bind_fails.mp h with h | ⟨n, _, hn, h⟩
  · exact ((guarded_cases hq).1 h).elim
  · -- The order has been found in the basket, so its count is written.
    obtain ⟨hzero, -, -⟩ := Work.require_fails.mp h
    obtain ⟨hnone, -⟩ := (guarded_cases (e := e) hq).2 n hn (by simpa using hzero)
    rw [basketOrder?_eq_some_iff.mpr ⟨found, owner, hbasket⟩] at hnone
    cases hnone

theorem deleteFromBasket_fails {id : OrderId}
    (h : (deleteFromBasket user id).Fails (answer now) l e l') :
    Refusal now l (.delete user id) e := by
  have hq := answer_deleteBasketOrder now id user l
  unfold deleteFromBasket at h
  rcases Work.bind_fails.mp h with h | ⟨n, _, hn, h⟩
  · exact ((guarded_cases hq).1 h).elim
  · obtain ⟨hzero, rfl, -⟩ := Work.require_fails.mp h
    obtain ⟨hnone, -⟩ :=
      (guarded_cases (e := .noAffectedRows .basketDelete) hq).2 n hn (by simpa using hzero)
    exact .delete hnone

end Fails

/-- **Every refusal has one of the causes.** -/
theorem perform_refusal {now : Instant} {l : Ledger} (hw : l.WellFormed) {call : OrderCall}
    {e : OrderError} (h : (l.perform now call).result = .error e) : Refusal now l call e := by
  obtain ⟨l', hf⟩ := work_fails_of_perform h
  cases call with
  | add user id count => exact addToBasket_fails (Work.map_fails.mp hf)
  | setCount user id count => exact setCount_fails hw (Work.map_fails.mp hf)
  | setStatus user id target => exact .move (moveOrder_fails hw (Work.map_fails.mp hf))
  | buy user => exact buyBasket_fails hw (Work.map_fails.mp hf)
  | delete user id => exact deleteFromBasket_fails (Work.map_fails.mp hf)
  | basket user =>
    rw [perform_basket] at h
    cases h
  | bought user =>
    obtain ⟨os, -, hr⟩ := perform_bought hw now user
    rw [hr] at h
    cases h
  | sold user =>
    obtain ⟨os, -, hr⟩ := perform_sold hw now user
    rw [hr] at h
    cases h

end Ledger

end Marketplace
