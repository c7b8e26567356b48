import Mathlib.Data.List.Induction
import Marketplace.Proofs.Instant
import Marketplace.Proofs.Order.StockLedger

/-!
# Orders and the clock

* `OrderStep`: where an order found after an event comes from.
* `readings`: the readings of the clock along a run, one for each call.
* `lastMove`: the place of the event that moved an order last.
* `createdAt_le_updatedAt`, `createdAt_lt`, `updatedAt_of_lastMove`: what the times of an order say
  of the run, for a clock that does not go back and for one that always goes on.
-/

namespace Marketplace

/-- The reading of the clock that an event takes. -/
def OrderEvent.reading? : OrderEvent → Option Instant
  | .call now _ => some now
  | _ => none

/-- The readings of the clock along a run. -/
def readings (events : List OrderEvent) : List Instant := events.filterMap OrderEvent.reading?

namespace Ledger

variable {now : Instant} {user : UserId} {target : OrderStatus} {l l' : Ledger} {id j : OrderId}
  {o o' : StoredOrder} {e : OrderEvent} {events : List OrderEvent}

/-! ## Where an order comes from -/

/-- Where the order `o'` that stands under `id` after an event on `l` comes from. -/
inductive OrderStep (l : Ledger) (id : OrderId) : OrderEvent → StoredOrder → Prop where
  | kept {e : OrderEvent} {o' : StoredOrder} (found : l.orders.get? id = some o') :
      OrderStep l id e o'
  | created {now : Instant} {call : OrderCall} {user : UserId} {product : ProductId} {count : Int32}
      (free : l.lastOrder ≠ Int64.maxValue) (id_eq : id = l.lastOrder + 1) :
      OrderStep l id (.call now call) (.fresh id user product count now)
  | recounted {now : Instant} {call : OrderCall} {o : StoredOrder} {count : Int32}
      (found : l.orders.get? id = some o) (inBasket : o.isInBasket) :
      OrderStep l id (.call now call) (o.recounted count now)
  | moved {now : Instant} {call : OrderCall} {o : StoredOrder} {target : OrderStatus}
      (found : l.orders.get? id = some o) (forward : o.status < target.code) :
      OrderStep l id (.call now call) (o.moved target now)

theorem Moved.kept_or_moved (h : Moved now user target id l l') (ho' : l'.orders.get? j = some o') :
    l.orders.get? j = some o' ∨
      ∃ o, l.orders.get? j = some o ∧ o.status < target.code ∧ o.moved target now = o' := by
  obtain ⟨o, ho, -, hlt, horders, -⟩ := h.orders_eq
  rw [horders] at ho'
  rcases Table.get?_insert_eq_some_iff.mp ho' with ⟨rfl, rfl⟩ | ⟨-, ho'⟩
  · exact .inr ⟨o, ho, hlt, rfl⟩
  · exact .inl ho'

theorem Bought.kept_or_moved {ids : List OrderId} (h : Bought now user ids l l')
    (ho' : l'.orders.get? j = some o') :
    l.orders.get? j = some o' ∨ ∃ o, l.orders.get? j = some o ∧
      o.status < OrderStatus.inProcessing.code ∧ o.moved .inProcessing now = o' := by
  induction h with
  | nil => exact .inl ho'
  | cons first _ ih =>
    rcases ih ho' with h₁ | ⟨o₁, h₁, hlt, rfl⟩
    · exact first.kept_or_moved h₁
    · rcases first.kept_or_moved h₁ with h₀ | ⟨o, -, -, rfl⟩
      · exact .inr ⟨o₁, h₀, hlt, rfl⟩
      · -- An order that is in processing is not moved there again.
        exact (Int16.lt_irrefl hlt).elim

theorem Effect.orderStep {call : OrderCall} {r : Except OrderError OrderAnswer}
    (h : Effect now l call r l') (ho' : l'.orders.get? id = some o') :
    OrderStep l id (.call now call) o' := by
  cases h with
  | refused | listed => exact .kept ho'
  | added _ _ _ _ free =>
    rcases Table.get?_insert_eq_some_iff.mp ho' with ⟨rfl, rfl⟩ | ⟨-, ho'⟩
    · exact .created free rfl
    · exact .kept ho'
  | recounted _ found _ inBasket =>
    rcases Table.get?_insert_eq_some_iff.mp ho' with ⟨rfl, rfl⟩ | ⟨-, ho'⟩
    · exact .recounted found inBasket
    · exact .kept ho'
  | moved move =>
    rcases move.kept_or_moved ho' with h | ⟨o, found, forward, rfl⟩
    · exact .kept h
    · exact .moved found forward
  | bought _ moves =>
    rcases moves.kept_or_moved ho' with h | ⟨o, found, forward, rfl⟩
    · exact .kept h
    · exact .moved found forward
  | deleted => exact .kept (Table.get?_erase_eq_some_iff.mp ho').2

theorem orderStep_apply (e : OrderEvent) (ho' : (l.apply e).orders.get? id = some o') :
    OrderStep l id e o' := by
  cases e with
  | call now call => exact (perform_effect now call l).orderStep ho'
  | putProduct | removeProduct | addImage | addFavourite => exact .kept ho'

/-- An order keeps the time of its creation, or it is new and the clock was read for it. -/
theorem OrderStep.createdAt (h : OrderStep l id e o') :
    (∃ o, l.orders.get? id = some o ∧ o.createdAt = o'.createdAt) ∨
      l.lastOrder ≠ Int64.maxValue ∧ id = l.lastOrder + 1 ∧ e.reading? = some o'.createdAt := by
  cases h with
  | kept found => exact .inl ⟨_, found, rfl⟩
  | created free id_eq => exact .inr ⟨free, id_eq, rfl⟩
  | recounted found => exact .inl ⟨_, found, rfl⟩
  | moved found => exact .inl ⟨_, found, rfl⟩

/-! ## The readings of a run -/

variable {R : Instant → Instant → Prop} {t t' : Instant}

theorem replay_concat (l : Ledger) (events : List OrderEvent) (e : OrderEvent) :
    l.replay (events ++ [e]) = (l.replay events).apply e :=
  replay_append l events [e]

theorem mem_readings_concat :
    t ∈ readings (events ++ [e]) ↔ t ∈ readings events ∨ e.reading? = some t := by
  simp [readings]

theorem readings_pairwise_concat (clock : (readings (events ++ [e])).Pairwise R) :
    (readings events).Pairwise R ∧ ∀ t ∈ readings events, ∀ now, e.reading? = some now → R t now := by
  rw [readings, List.filterMap_append, List.pairwise_append] at clock
  refine ⟨clock.1, fun t ht now hnow => clock.2.2 t ht now ?_⟩
  simp [hnow]

/-- The readings of two events of a run come in the order of the events. -/
theorem readings_getElem? (clock : (readings events).Pairwise R) {i k : Nat} {call call' : OrderCall}
    (hi : events[i]? = some (.call t call)) (hk : events[k]? = some (.call t' call')) (hlt : i < k) :
    R t t' := by
  obtain ⟨hi, hei⟩ := List.getElem?_eq_some_iff.mp hi
  obtain ⟨hk, hek⟩ := List.getElem?_eq_some_iff.mp hk
  have := List.pairwise_iff_getElem.mp (List.pairwise_filterMap.mp clock) i k hi hk hlt
  rw [hei, hek] at this
  exact this t rfl t' rfl

/-- An order was created at a reading of the clock. -/
theorem createdAt_mem (ho : (empty.replay events).orders.get? id = some o) :
    o.createdAt ∈ readings events := by
  induction events using List.reverseRecOn generalizing o with
  | nil => cases ho
  | append_singleton events e ih =>
    rw [replay_concat] at ho
    rw [mem_readings_concat]
    rcases (orderStep_apply e ho).createdAt with ⟨o₀, found, heq⟩ | ⟨-, -, hread⟩
    · exact .inl (heq ▸ ih found)
    · exact .inr hread

/-- If the clock does not go back, no order is updated before it is created. -/
theorem createdAt_le_updatedAt (clock : (readings events).Pairwise (· ≤ ·))
    (ho : (empty.replay events).orders.get? id = some o) : o.createdAt ≤ o.updatedAt := by
  induction events using List.reverseRecOn generalizing o with
  | nil => cases ho
  | append_singleton events e ih =>
    rw [replay_concat] at ho
    obtain ⟨clock, hlast⟩ := readings_pairwise_concat clock
    cases orderStep_apply e ho with
    | kept found => exact ih clock found
    | created => exact Instant.le_refl _
    | recounted found => exact hlast _ (createdAt_mem found) _ rfl
    | moved found => exact hlast _ (createdAt_mem found) _ rfl

/-- If the clock always goes on, orders are created in the order of their identifiers. -/
theorem createdAt_lt (clock : (readings events).Pairwise (· < ·))
    (ho : (empty.replay events).orders.get? id = some o)
    (ho' : (empty.replay events).orders.get? j = some o') (hlt : id < j) :
    o.createdAt < o'.createdAt := by
  induction events using List.reverseRecOn generalizing o o' with
  | nil => cases ho
  | append_singleton events e ih =>
    rw [replay_concat] at ho ho'
    obtain ⟨clock, hlast⟩ := readings_pairwise_concat clock
    rcases (orderStep_apply e ho).createdAt with ⟨o₀, found, heq⟩ | ⟨free, rfl, -⟩
    · rcases (orderStep_apply e ho').createdAt with ⟨o₁, found', heq'⟩ | ⟨-, -, hread⟩
      · rw [← heq, ← heq']
        exact ih clock found found'
      · exact heq ▸ hlast _ (createdAt_mem found) _ hread
    · rcases (orderStep_apply e ho').createdAt with ⟨o₁, found', -⟩ | ⟨-, rfl, -⟩
      · -- The first of the two is new, so there is no identifier behind it.
        have hle := ((WellFormed.empty.replay events).orders found').id_le
        exact (Int64.not_lt.mpr hle (Int64.lt_trans (lastOrder_lt_succ free) hlt)).elim
      · exact (Int64.lt_irrefl hlt).elim

/-! ## Which event moved an order last -/

/-- The place of the last event that moves the status of the order under `id`, counted from one, or
zero if none does. -/
def lastMove (id : OrderId) : Ledger → List OrderEvent → Nat
  | _, [] => 0
  | l, e :: events =>
    match lastMove id (l.apply e) events with
    | 0 => (movesStatus id l (l.apply e)).toNat
    | n + 1 => n + 2

theorem lastMove_concat (id : OrderId) (l : Ledger) (events : List OrderEvent) (e : OrderEvent) :
    lastMove id l (events ++ [e]) =
      if movesStatus id (l.replay events) ((l.replay events).apply e) then events.length + 1
      else lastMove id l events := by
  induction events generalizing l with
  | nil =>
    simp only [List.nil_append, lastMove, replay_nil, List.length_nil]
    by_cases h : movesStatus id l (l.apply e) = true <;> simp [h]
  | cons e' events ih =>
    simp only [List.cons_append, lastMove, ih, replay_cons, List.length_cons]
    by_cases h : movesStatus id ((l.apply e').replay events) (((l.apply e').replay events).apply e)
        = true <;> simp [h]

/-- An order beyond the basket has the time of the event that moved it last. -/
theorem updatedAt_of_lastMove (ho : (empty.replay events).orders.get? id = some o)
    (left : o.hasLeftBasket) :
    ∃ k call, lastMove id empty events = k + 1 ∧ events[k]? = some (.call o.updatedAt call) := by
  induction events using List.reverseRecOn generalizing o with
  | nil => cases ho
  | append_singleton events e ih =>
    rw [replay_concat] at ho
    rw [lastMove_concat]
    cases orderStep_apply e ho with
    | kept found =>
      have hstays : ¬ movesStatus id (empty.replay events) ((empty.replay events).apply e) := by
        simp [movesStatus, found, ho]
      obtain ⟨k, call, hmove, hevent⟩ := ih found left
      have hk := (List.getElem?_eq_some_iff.mp hevent).1
      exact ⟨k, call, by rw [if_neg hstays, hmove], by rw [List.getElem?_append_left hk, hevent]⟩
    | created =>
      rw [StoredOrder.hasLeftBasket_fresh] at left
      cases left
    | recounted _ inBasket =>
      have := StoredOrder.hasLeftBasket_eq_false inBasket
      exact (Bool.false_ne_true (this.symm.trans left)).elim
    | @moved now call o target found forward =>
      have hmoves : movesStatus id (empty.replay events)
          ((empty.replay events).apply (.call now call)) := by
        have hne := (Int16.ne_of_lt forward).symm
        simp [movesStatus, found, ho, StoredOrder.moved, hne]
      exact ⟨events.length, call, by rw [if_pos hmoves], by simp [StoredOrder.moved]⟩

/-- With a clock that always goes on, the later update is that of the later move. -/
theorem updatedAt_le_iff (clock : (readings events).Pairwise (· < ·))
    (ho : (empty.replay events).orders.get? id = some o) (left : o.hasLeftBasket)
    (ho' : (empty.replay events).orders.get? j = some o') (left' : o'.hasLeftBasket) :
    o.updatedAt ≤ o'.updatedAt ↔ lastMove id empty events ≤ lastMove j empty events := by
  obtain ⟨k, call, hk, hevent⟩ := updatedAt_of_lastMove ho left
  obtain ⟨m, call', hm, hevent'⟩ := updatedAt_of_lastMove ho' left'
  rw [hk, hm, Nat.add_le_add_iff_right]
  rcases Nat.lt_trichotomy k m with hlt | rfl | hlt
  · have := readings_getElem? clock hevent hevent' hlt
    exact iff_of_true (Instant.le_of_lt this) (Nat.le_of_lt hlt)
  · obtain ⟨heq, -⟩ := OrderEvent.call.inj (Option.some.inj (hevent.symm.trans hevent'))
    exact iff_of_true (heq ▸ Instant.le_refl _) (Nat.le_refl _)
  · have := readings_getElem? clock hevent' hevent hlt
    exact iff_of_false (fun h => Instant.not_lt.mpr h this) (Nat.not_le.mpr hlt)

end Ledger

end Marketplace
