import Marketplace.Order.Call
import Marketplace.Proofs.Order.Work

/-!
# What a call does to a ledger

`Ledger.Effect now l call result l'` lists all that one call can do, a case for each kind of call:
a refused call changes nothing, a successful one makes the writes of its kind under its guards.
`perform_effect` shows that the list is complete. What holds of all calls is proved by cases on it,
and no such proof opens the work of a call again.
-/

namespace Marketplace

/-- Whether a call only reads. -/
def OrderCall.isListing : OrderCall → Bool
  | basket _ | bought _ | sold _ => true
  | _ => false

namespace Ledger

/-- All that one call can do, with its result. -/
inductive Effect (now : Instant) (l : Ledger) :
    OrderCall → Except OrderError OrderAnswer → Ledger → Prop where
  | refused (call : OrderCall) (e : OrderError) : Effect now l call (.error e) l
  | listed (call : OrderCall) (a : OrderAnswer) (reads : call.isListing) : Effect now l call (.ok a) l
  | added {user : UserId} {id : ProductId} {count : Int32} {p : Product} (positive : 0 < count)
      (product : l.products.get? id = some p) (active : p.isActive) (enough : count ≤ p.available)
      (free : l.lastOrder ≠ Int64.maxValue) :
      Effect now l (.add user id count) (.ok (.entry (l.newEntry now user id count p)))
        (l.addOrder now user id count)
  | recounted {user : UserId} {id : OrderId} {count : Int32} {o : StoredOrder} {p : Product}
      (positive : 0 < count) (found : l.orders.get? id = some o) (owner : o.owner = user)
      (inBasket : o.isInBasket) (product : l.products.get? o.product = some p)
      (active : p.isActive) (enough : count ≤ p.available) :
      Effect now l (.setCount user id count) (.ok .nothing)
        (l.storeOrder id (o.recounted count now))
  | moved {user : UserId} {id : OrderId} {target : OrderStatus} {l' : Ledger}
      (move : Moved now user target id l l') :
      Effect now l (.setStatus user id target) (.ok .nothing) l'
  | bought {user : UserId} {l' : Ledger} (some : l.basketIds user ≠ [])
      (moves : Bought now user (l.basketIds user) l l') :
      Effect now l (.buy user) (.ok (.bought (l.basketIds user).length)) l'
  | deleted {user : UserId} {id : OrderId} {o : StoredOrder} (found : l.orders.get? id = some o)
      (owner : o.owner = user) (inBasket : o.isInBasket) :
      Effect now l (.delete user id) (.ok .nothing) (l.dropOrder id)

/-! ## Images and favourites stay -/

theorem Moved.adornments_eq {now : Instant} {user : UserId} {target : OrderStatus} {id : OrderId}
    {l l' : Ledger} (h : Moved now user target id l l') :
    l'.images = l.images ∧ l'.favourites = l.favourites := by
  cases h <;> exact ⟨rfl, rfl⟩

theorem Bought.adornments_eq {now : Instant} {user : UserId} {ids : List OrderId} {l l' : Ledger}
    (h : Bought now user ids l l') : l'.images = l.images ∧ l'.favourites = l.favourites := by
  induction h with
  | nil => exact ⟨rfl, rfl⟩
  | cons first _ ih =>
    obtain ⟨himages, hfavourites⟩ := first.adornments_eq
    exact ⟨ih.1.trans himages, ih.2.trans hfavourites⟩

/-- No call changes images or favourites. -/
theorem Effect.adornments_eq {now : Instant} {l l' : Ledger} {call : OrderCall}
    {r : Except OrderError OrderAnswer} (h : Effect now l call r l') :
    l'.images = l.images ∧ l'.favourites = l.favourites := by
  cases h with
  | refused | listed | added | recounted | deleted => exact ⟨rfl, rfl⟩
  | moved move => exact move.adornments_eq
  | bought _ moves => exact moves.adornments_eq

/-! ## The list is complete -/

section Complete

variable {now : Instant} {l l' : Ledger}

theorem adorn_returns {viewer : UserId} {rows : List OrderRow} {a : Adornment}
    (h : (adorn viewer rows).Returns (answer now) l a l') : l = l' := by
  unfold adorn at h
  dsimp only at h
  split at h
  · exact (Work.done_returns.mp h).2
  · simp only [Work.bind_returns, Work.query_returns, answer, Outcome.ok, Work.pure_eq,
      Work.done_returns] at h
    obtain ⟨_, _, ⟨-, rfl⟩, _, _, ⟨-, rfl⟩, -, rfl⟩ := h
    rfl

theorem basketEntries_returns {user : UserId} {es : List BasketEntry}
    (h : (basketEntries user).Returns (answer now) l es l') : l = l' := by
  unfold basketEntries at h
  simp only [Work.bind_returns, Work.query_returns, answer, Outcome.ok, Work.pure_eq,
    Work.done_returns] at h
  obtain ⟨_, _, ⟨-, rfl⟩, _, _, ha, -, rfl⟩ := h
  exact adorn_returns ha

theorem listOrders_returns {filter : OrderFilter} {viewer : UserId} {os : List OrderView}
    (h : (listOrders filter viewer).Returns (answer now) l os l') : l = l' := by
  unfold listOrders at h
  simp only [Work.bind_returns, Work.query_returns, answer, Outcome.ok] at h
  obtain ⟨_, _, ⟨-, rfl⟩, _, _, ha, hv⟩ := h
  obtain rfl := adorn_returns ha
  exact (Work.ofExcept_returns.mp hv).2

/-- A call is refused and changes nothing, or its work succeeds. -/
theorem perform_cases (now : Instant) (call : OrderCall) (l : Ledger) :
    (∃ e, (l.perform now call).result = .error e ∧ (l.perform now call).state = l) ∨
      ∃ a, (l.perform now call).result = .ok a ∧
        call.work.Returns (answer now) l a (l.perform now call).state := by
  unfold perform transact OrderCall.announce
  cases h : (call.work.run (answer now) l).result with
  | error e => exact .inl ⟨e, by simp [h]⟩
  | ok a => exact .inr ⟨a, by simp [h, Work.Returns]⟩

/-- Work that succeeds is what the call does. -/
theorem perform_of_returns {call : OrderCall} {a : OrderAnswer}
    (h : call.work.Returns (answer now) l a l') :
    (l.perform now call).result = .ok a ∧ (l.perform now call).state = l' := by
  obtain ⟨hr, hs⟩ := h
  simp [perform, transact, hr, hs]

theorem perform_of_fails {call : OrderCall} {e : OrderError}
    (h : call.work.Fails (answer now) l e l') : (l.perform now call).result = .error e := by
  obtain ⟨hr, -⟩ := h
  simp [perform, transact, hr]

/-- A refused call changes nothing. -/
theorem perform_state_of_error {call : OrderCall} {e : OrderError}
    (h : (l.perform now call).result = .error e) : (l.perform now call).state = l := by
  rcases perform_cases now call l with ⟨_, -, hstate⟩ | ⟨_, hok, -⟩
  · exact hstate
  · rw [h] at hok
    cases hok

/-- The error of a call is that of its work. -/
theorem work_fails_of_perform {call : OrderCall} {e : OrderError}
    (h : (l.perform now call).result = .error e) : ∃ l', call.work.Fails (answer now) l e l' := by
  refine ⟨_, ?_, rfl⟩
  rw [perform, OrderCall.announce_result, transact] at h
  cases hr : (call.work.run (answer now) l).result with
  | ok a => simp [hr] at h
  | error e' => simpa [hr] using h

/-- **Every call has one of the effects.** -/
theorem perform_effect (now : Instant) (call : OrderCall) (l : Ledger) :
    Effect now l call (l.perform now call).result (l.perform now call).state := by
  obtain ⟨e, hr, hs⟩ | ⟨a, hr, hw⟩ := perform_cases now call l
  · rw [hr, hs]
    exact .refused call e
  rw [hr]
  generalize (l.perform now call).state = l' at hw
  cases call with
  | add user id count =>
    obtain ⟨e, he, rfl⟩ := Work.map_returns.mp hw
    obtain ⟨p, hpos, hp, hactive, henough, hfree, rfl, rfl⟩ := addToBasket_returns.mp he
    exact .added hpos hp hactive henough hfree
  | setCount user id count =>
    obtain ⟨_, hc, rfl⟩ := Work.map_returns.mp hw
    obtain ⟨o, p, hpos, ho, hu, hbasket, hp, hactive, henough, rfl⟩ := setCount_returns.mp hc
    exact .recounted hpos ho hu hbasket hp hactive henough
  | setStatus user id target =>
    obtain ⟨_, hm, rfl⟩ := Work.map_returns.mp hw
    exact .moved (moveOrder_returns.mp hm)
  | buy user =>
    obtain ⟨n, hb, rfl⟩ := Work.map_returns.mp hw
    obtain ⟨hne, moves, rfl⟩ := buyBasket_returns.mp hb
    exact .bought hne moves
  | delete user id =>
    obtain ⟨_, hd, rfl⟩ := Work.map_returns.mp hw
    obtain ⟨o, ho, hu, hbasket, rfl⟩ := deleteFromBasket_returns.mp hd
    exact .deleted ho hu hbasket
  | basket user =>
    obtain ⟨es, he, rfl⟩ := Work.map_returns.mp hw
    obtain rfl := basketEntries_returns he
    exact .listed _ _ rfl
  | bought user =>
    obtain ⟨os, ho, rfl⟩ := Work.map_returns.mp hw
    obtain rfl := listOrders_returns ho
    exact .listed _ _ rfl
  | sold user =>
    obtain ⟨os, ho, rfl⟩ := Work.map_returns.mp hw
    obtain rfl := listOrders_returns ho
    exact .listed _ _ rfl

end Complete

end Ledger

end Marketplace
