import Marketplace.Proofs.Order.Reachable

/-!
# The history of an order

What a call may do to an order, and what follows for whole runs.

* `StoredOrder.HistoryStep`: an order that stays keeps what it is, its status only grows, and each
  field that may change changes by calls of its owner only.
* `Ledger.Gone`: an identifier has been given, and no order stands under it. It stays so.
* `order_history`: both for every call, and at most three status moves in a run.
-/

namespace Marketplace

/-- What a call with this result may do to the order under `id` if it stays. -/
structure StoredOrder.HistoryStep (id : OrderId) (call : OrderCall)
    (result : Except OrderError OrderAnswer) (o o' : StoredOrder) : Prop where
  id_eq : o'.id = o.id
  owner_eq : o'.owner = o.owner
  product_eq : o'.product = o.product
  createdAt_eq : o'.createdAt = o.createdAt
  status_le : o.status ≤ o'.status
  /-- Only its owner moves an order, by itself or with the whole basket. -/
  status_moved : o'.status ≠ o.status →
    (∃ target, call = .setStatus o.owner id target) ∨ call = .buy o.owner
  /-- Only its owner changes a count, and only in the basket. -/
  count_changed : o'.count ≠ o.count → o.isInBasket ∧ ∃ count, call = .setCount o.owner id count
  /-- The time changes with a move, or with a write of the count. -/
  updatedAt_changed : o'.updatedAt ≠ o.updatedAt →
    o'.status ≠ o.status ∨ o.isInBasket ∧ ∃ count, call = .setCount o.owner id count
  /-- A refused call changes nothing. -/
  succeeded : o' ≠ o → ∃ a, result = .ok a

theorem StoredOrder.HistoryStep.refl (id : OrderId) (call : OrderCall)
    (r : Except OrderError OrderAnswer) (o : StoredOrder) : o.HistoryStep id call r o where
  id_eq := rfl
  owner_eq := rfl
  product_eq := rfl
  createdAt_eq := rfl
  status_le := Int16.le_refl _
  status_moved h := (h rfl).elim
  count_changed h := (h rfl).elim
  updatedAt_changed h := (h rfl).elim
  succeeded h := (h rfl).elim

theorem StoredOrder.HistoryStep.moved {o : StoredOrder} {target : OrderStatus}
    (hlt : o.status < target.code) {id : OrderId} {call : OrderCall} {a : OrderAnswer}
    (hcall : (∃ t, call = .setStatus o.owner id t) ∨ call = .buy o.owner) (now : Instant) :
    o.HistoryStep id call (.ok a) (o.moved target now) where
  id_eq := rfl
  owner_eq := rfl
  product_eq := rfl
  createdAt_eq := rfl
  status_le := Int16.le_of_lt hlt
  status_moved _ := hcall
  count_changed h := (h rfl).elim
  updatedAt_changed _ := .inl (Int16.ne_of_lt hlt).symm
  succeeded _ := ⟨a, rfl⟩

namespace Ledger

variable {now : Instant} {user : UserId} {target : OrderStatus} {l l' : Ledger} {id j : OrderId}
  {o o' : StoredOrder} {call : OrderCall} {r : Except OrderError OrderAnswer}

/-! ## Moves -/

/-- A move writes one order, which it moves forward. -/
theorem Moved.orders_eq (h : Moved now user target id l l') :
    ∃ o, l.orders.get? id = some o ∧ o.owner = user ∧ o.status < target.code ∧
      l'.orders = (l.storeOrder id (o.moved target now)).orders ∧ l'.lastOrder = l.lastOrder := by
  cases h with
  | onward found owner status _ forward =>
    exact ⟨_, found, owner, by rw [status]; exact OrderStatus.lt_def.mp forward, rfl, rfl⟩
  | leave found owner status forward =>
    exact ⟨_, found, owner, by rw [status]; exact OrderStatus.lt_def.mp forward, rfl, rfl⟩

/-- A move leaves an order as it is, or is the move of this order. -/
theorem Moved.order (h : Moved now user target id l l') (ho : l.orders.get? j = some o) :
    l'.orders.get? j = some o ∨
      j = id ∧ o.owner = user ∧ o.status < target.code ∧
        l'.orders.get? j = some (o.moved target now) := by
  obtain ⟨o₁, ho₁, howner, hlt, horders, -⟩ := h.orders_eq
  rw [horders]
  by_cases hj : id = j
  · subst hj
    obtain rfl := Option.some.inj (ho₁.symm.trans ho)
    exact .inr ⟨rfl, howner, hlt, get?_storeOrder_self⟩
  · exact .inl ((get?_storeOrder_ne hj).trans ho)

/-- A purchase moves the orders it lists, and leaves the others as they are. -/
theorem Bought.order {ids : List OrderId} (h : Bought now user ids l l')
    (ho : l.orders.get? j = some o) :
    l'.orders.get? j = some o ∨
      j ∈ ids ∧ o.owner = user ∧ o.status < OrderStatus.inProcessing.code ∧
        l'.orders.get? j = some (o.moved .inProcessing now) := by
  induction h generalizing o with
  | nil => exact .inl ho
  | @cons id ids l l₁ l₂ first _ ih =>
    rcases first.order ho with h₁ | ⟨rfl, howner, hlt, h₁⟩
    · exact (ih h₁).imp_right fun ⟨hm, hrest⟩ => ⟨List.mem_cons_of_mem _ hm, hrest⟩
    · -- The order is in processing now, so the rest of the purchase cannot move it again.
      rcases ih h₁ with h₂ | ⟨-, -, hlt₂, -⟩
      · exact .inr ⟨List.mem_cons_self, howner, hlt, h₂⟩
      · exact (Int16.lt_irrefl hlt₂).elim

/-! ## One call -/

/-- An order that stays goes one step of its history. -/
theorem Effect.historyStep (h : Effect now l call r l') (hw : l.WellFormed)
    (ho : l.orders.get? id = some o) (ho' : l'.orders.get? id = some o') :
    o.HistoryStep id call r o' := by
  have hsame (h : l'.orders.get? id = some o) : o.HistoryStep id call r o' := by
    obtain rfl := Option.some.inj (h.symm.trans ho')
    exact .refl _ _ _ _
  cases h with
  | refused | listed => exact hsame ho
  | added _ _ _ _ free =>
    have hne : l.lastOrder + 1 ≠ id := by
      rintro rfl
      rw [hw.get?_lastOrder_succ free] at ho
      cases ho
    exact hsame ((get?_addOrder_ne hne).trans ho)
  | @recounted _ id' _ _ _ _ found owner inBasket =>
    by_cases he : id' = id
    · subst he
      obtain rfl := Option.some.inj (found.symm.trans ho)
      obtain rfl := Option.some.inj (get?_storeOrder_self.symm.trans ho')
      subst owner
      exact ⟨rfl, rfl, rfl, rfl, Int16.le_refl _, fun h => (h rfl).elim, fun _ => ⟨inBasket, _, rfl⟩,
        fun _ => .inr ⟨inBasket, _, rfl⟩, fun _ => ⟨_, rfl⟩⟩
    · exact hsame ((get?_storeOrder_ne he).trans ho)
  | moved move =>
    rcases move.order ho with h | ⟨rfl, rfl, hlt, h⟩
    · exact hsame h
    · obtain rfl := Option.some.inj (h.symm.trans ho')
      exact .moved hlt (.inl ⟨_, rfl⟩) now
  | bought _ moves =>
    rcases moves.order ho with h | ⟨-, rfl, hlt, h⟩
    · exact hsame h
    · obtain rfl := Option.some.inj (h.symm.trans ho')
      exact .moved hlt (.inr rfl) now
  | @deleted _ id' =>
    have := (Table.get?_erase_eq_some_iff.mp ho').2
    obtain rfl := Option.some.inj (this.symm.trans ho)
    exact .refl _ _ _ _

/-- An order that goes was deleted from the basket by its owner. -/
theorem Effect.deleted_of_get?_eq_none (h : Effect now l call r l') (ho : l.orders.get? id = some o)
    (hn : l'.orders.get? id = none) :
    o.isInBasket ∧ call = .delete o.owner id ∧ r = .ok .nothing := by
  have hstays {o' : StoredOrder} (h : l'.orders.get? id = some o') : False := by
    rw [hn] at h
    cases h
  cases h with
  | refused | listed => exact (hstays ho).elim
  | added =>
    by_cases he : l.lastOrder + 1 = id
    · subst he
      exact (hstays get?_addOrder_self).elim
    · exact (hstays ((get?_addOrder_ne he).trans ho)).elim
  | @recounted _ id' =>
    by_cases he : id' = id
    · subst he
      exact (hstays get?_storeOrder_self).elim
    · exact (hstays ((get?_storeOrder_ne he).trans ho)).elim
  | moved move =>
    rcases move.order ho with h | ⟨-, -, -, h⟩ <;> exact (hstays h).elim
  | bought _ moves =>
    rcases moves.order ho with h | ⟨-, -, -, h⟩ <;> exact (hstays h).elim
  | @deleted _ id' o₁ found owner inBasket =>
    by_cases he : id' = id
    · subst he
      obtain rfl := Option.some.inj (found.symm.trans ho)
      exact ⟨inBasket, by rw [owner], rfl⟩
    · exact (hstays ((get?_dropOrder_ne he).trans ho)).elim

/-! ## Identifiers that are gone -/

/-- The identifier has been given, and no order stands under it. -/
def Gone (id : OrderId) (l : Ledger) : Prop := l.orders.get? id = none ∧ id ≤ l.lastOrder

theorem Gone.ne (hg : Gone j l) (ho : l.orders.get? id = some o) : id ≠ j := by
  rintro rfl
  rw [hg.1] at ho
  cases ho

theorem Moved.gone (h : Moved now user target id l l') (hg : Gone j l) : Gone j l' := by
  obtain ⟨o, ho, -, -, horders, hlast⟩ := h.orders_eq
  exact ⟨by rw [horders, get?_storeOrder_ne (hg.ne ho), hg.1], hlast ▸ hg.2⟩

theorem Bought.gone {ids : List OrderId} (h : Bought now user ids l l') (hg : Gone j l) :
    Gone j l' := by
  induction h with
  | nil => exact hg
  | cons first _ ih => exact ih (first.gone hg)

theorem Bought.lastOrder_eq {ids : List OrderId} (h : Bought now user ids l l') :
    l'.lastOrder = l.lastOrder := by
  induction h with
  | nil => rfl
  | cons first _ ih =>
    obtain ⟨_, -, -, -, -, hlast⟩ := first.orders_eq
    exact ih.trans hlast

theorem Effect.lastOrder_le (h : Effect now l call r l') : l.lastOrder ≤ l'.lastOrder := by
  cases h with
  | refused | listed | recounted | deleted => exact Int64.le_refl _
  | added _ _ _ _ free => exact Int64.le_of_lt (lastOrder_lt_succ free)
  | moved move =>
    obtain ⟨_, -, -, -, -, hlast⟩ := move.orders_eq
    exact hlast ▸ Int64.le_refl _
  | bought _ moves => exact moves.lastOrder_eq ▸ Int64.le_refl _

theorem Effect.gone (h : Effect now l call r l') (hg : Gone id l) : Gone id l' := by
  refine ⟨?_, Int64.le_trans hg.2 h.lastOrder_le⟩
  cases h with
  | refused | listed => exact hg.1
  | added _ _ _ _ free =>
    have hne : l.lastOrder + 1 ≠ id := fun e =>
      Int64.not_le.mpr (lastOrder_lt_succ free) (e ▸ hg.2)
    exact (get?_addOrder_ne hne).trans hg.1
  | recounted _ found => exact (get?_storeOrder_ne (hg.ne found)).trans hg.1
  | moved move => exact (move.gone hg).1
  | bought _ moves => exact (moves.gone hg).1
  | deleted found => exact (get?_dropOrder_ne (hg.ne found)).trans hg.1

/-! ## Runs -/

/-- An event is a call with its effect, or it leaves the orders alone. -/
theorem apply_cases (l : Ledger) (e : OrderEvent) :
    (∃ now call r, Effect now l call r (l.apply e)) ∨
      (l.apply e).orders = l.orders ∧ (l.apply e).lastOrder = l.lastOrder := by
  cases e with
  | call now call => exact .inl ⟨now, call, _, perform_effect now call l⟩
  | putProduct | removeProduct | addImage | addFavourite => exact .inr ⟨rfl, rfl⟩

theorem lastOrder_le_replay (l : Ledger) (events : List OrderEvent) :
    l.lastOrder ≤ (l.replay events).lastOrder := by
  induction events generalizing l with
  | nil => exact Int64.le_refl _
  | cons e events ih =>
    refine Int64.le_trans ?_ (ih (l.apply e))
    rcases apply_cases l e with ⟨_, _, _, he⟩ | ⟨-, hlast⟩
    · exact he.lastOrder_le
    · exact hlast ▸ Int64.le_refl _

theorem Gone.apply (hg : Gone id l) (e : OrderEvent) : Gone id (l.apply e) := by
  rcases apply_cases l e with ⟨_, _, _, he⟩ | ⟨horders, hlast⟩
  · exact he.gone hg
  · exact ⟨horders ▸ hg.1, hlast ▸ hg.2⟩

/-- Once gone, an identifier never denotes an order again. -/
theorem Gone.replay (hg : Gone id l) (events : List OrderEvent) : Gone id (l.replay events) := by
  induction events generalizing l with
  | nil => exact hg
  | cons e events ih => exact ih (hg.apply e)

/-! ## How often a status moves -/

/-- Whether the order under `id` stands in both ledgers, with another status. -/
def movesStatus (id : OrderId) (l l' : Ledger) : Bool :=
  match l.orders.get? id, l'.orders.get? id with
  | some o, some o' => o'.status ≠ o.status
  | _, _ => false

/-- How many events of a run move the status of the order under `id`. -/
def statusMoves (id : OrderId) : Ledger → List OrderEvent → Nat
  | _, [] => 0
  | l, e :: events => (movesStatus id l (l.apply e)).toNat + statusMoves id (l.apply e) events

/-- A bound for the moves to come: those between its status and the last one, none for an order that
is gone, and all three for one that is still to come. -/
def movesLeft (id : OrderId) (l : Ledger) : Nat :=
  match l.orders.get? id with
  | some o => (3 - o.status.toInt).toNat
  | none => if id ≤ l.lastOrder then 0 else 3

theorem status_bounds (hw : l.WellFormed) (ho : l.orders.get? id = some o) :
    0 ≤ o.status.toInt ∧ o.status.toInt ≤ 3 := by
  obtain ⟨s, hs⟩ := (hw.orders ho).status
  rw [hs]
  cases s <;> decide

theorem movesLeft_of_some (ho : l.orders.get? id = some o) :
    l.movesLeft id = (3 - o.status.toInt).toNat := by
  simp [movesLeft, ho]

theorem movesLeft_of_gone (hg : Gone id l) : l.movesLeft id = 0 := by
  simp [movesLeft, hg.1, hg.2]

theorem movesLeft_le_three (hw : l.WellFormed) (id : OrderId) : l.movesLeft id ≤ 3 := by
  cases ho : l.orders.get? id with
  | none =>
    simp only [movesLeft, ho]
    split <;> omega
  | some o =>
    have hb := status_bounds hw ho
    rw [movesLeft_of_some ho]
    omega

/-- The status of an order that stays grows or is the same. -/
theorem status_le_apply (hw : l.WellFormed) {e : OrderEvent} (ho : l.orders.get? id = some o)
    (ho' : (l.apply e).orders.get? id = some o') : o.status ≤ o'.status := by
  rcases apply_cases l e with ⟨_, _, _, he⟩ | ⟨horders, -⟩
  · exact (he.historyStep hw ho ho').status_le
  · rw [horders, ho] at ho'
    cases ho'
    exact Int16.le_refl _

/-- An event that moves the status uses up one of the moves that are left. -/
theorem movesLeft_apply (hw : l.WellFormed) (id : OrderId) (e : OrderEvent) :
    (movesStatus id l (l.apply e)).toNat + (l.apply e).movesLeft id ≤ l.movesLeft id := by
  cases ho : l.orders.get? id with
  | none =>
    have hm : movesStatus id l (l.apply e) = false := by simp [movesStatus, ho]
    by_cases hle : id ≤ l.lastOrder
    · have hg : Gone id l := ⟨ho, hle⟩
      simp [hm, movesLeft_of_gone hg, movesLeft_of_gone (hg.apply e)]
    · have hl : l.movesLeft id = 3 := by simp [movesLeft, ho, hle]
      have := movesLeft_le_three (hw.apply e) id
      simpa [hm, hl] using this
  | some o =>
    cases ho' : (l.apply e).orders.get? id with
    | none =>
      have hm : movesStatus id l (l.apply e) = false := by simp [movesStatus, ho, ho']
      have hle := Int64.le_trans (hw.orders ho).id_le (lastOrder_le_replay l [e])
      simp [hm, movesLeft_of_gone (⟨ho', hle⟩ : Gone id (l.apply e))]
    | some o' =>
      have hb := status_bounds hw ho
      have hb' := status_bounds (hw.apply e) ho'
      have hle := Int16.le_iff_toInt_le.mp (status_le_apply hw ho ho')
      rw [movesLeft_of_some ho, movesLeft_of_some ho']
      by_cases hs : o'.status = o.status
      · have hm : movesStatus id l (l.apply e) = false := by simp [movesStatus, ho, ho', hs]
        simp [hm, hs]
      · have hm : movesStatus id l (l.apply e) = true := by simp [movesStatus, ho, ho', hs]
        have hne : o'.status.toInt ≠ o.status.toInt := fun e => hs (Int16.toInt_inj.mp e)
        rw [hm, Bool.toNat_true]
        omega

theorem statusMoves_le_movesLeft (hw : l.WellFormed) (id : OrderId) (events : List OrderEvent) :
    statusMoves id l events ≤ l.movesLeft id := by
  induction events generalizing l with
  | nil => exact Nat.zero_le _
  | cons e events ih =>
    have := movesLeft_apply hw id e
    have := ih (hw.apply e)
    simp only [statusMoves]
    omega

/-! ## Which calls move a status -/

theorem Moved.movesStatus (h : Moved now user target id l l') : movesStatus id l l' = true := by
  obtain ⟨o, ho, -, hlt, horders, -⟩ := h.orders_eq
  have hne := (Int16.ne_of_lt hlt).symm
  simp [Ledger.movesStatus, ho, horders, get?_storeOrder_self, StoredOrder.moved, hne]

/-- A purchase moves all the orders it lists. -/
theorem Bought.status_lt {ids : List OrderId} (h : Bought now user ids l l') (hj : j ∈ ids)
    (ho : l.orders.get? j = some o) : ∃ o', l'.orders.get? j = some o' ∧ o.status < o'.status := by
  induction h generalizing o with
  | nil => cases hj
  | @cons id ids l l₁ l₂ first rest ih =>
    obtain ⟨o₁, ho₁, -, hlt, horders, -⟩ := first.orders_eq
    by_cases hid : id = j
    · subst hid
      obtain rfl := Option.some.inj (ho₁.symm.trans ho)
      have h₁ : l₁.orders.get? id = some (o₁.moved .inProcessing now) := by
        rw [horders, get?_storeOrder_self]
      rcases rest.order h₁ with h₂ | ⟨-, -, hlt₂, -⟩
      · exact ⟨_, h₂, hlt⟩
      · exact (Int16.lt_irrefl hlt₂).elim
    · have hj : j ∈ ids := by
        rcases List.mem_cons.mp hj with rfl | hj
        · exact (hid rfl).elim
        · exact hj
      exact ih hj (by rw [horders, get?_storeOrder_ne hid, ho])

theorem mem_basketIds_iff (hw : l.WellFormed) :
    id ∈ l.basketIds user ↔ ∃ o, l.orders.get? id = some o ∧ o.owner = user ∧ o.isInBasket := by
  simp only [basketIds, List.mem_map, List.mem_filter, Table.mem_values_iff, decide_eq_true_eq]
  constructor
  · rintro ⟨o, ⟨⟨k, ho⟩, hu⟩, rfl⟩
    rw [(hw.orders ho).id_eq]
    exact ⟨o, ho, hu⟩
  · rintro ⟨o, ho, hu⟩
    exact ⟨o, ⟨⟨id, ho⟩, hu⟩, (hw.orders ho).id_eq⟩

/-- The call asks for a move of the order under `id`, alone or with the whole basket. -/
def AsksToMove (l : Ledger) (id : OrderId) : OrderCall → Prop
  | .setStatus _ order _ => order = id
  | .buy user => id ∈ l.basketIds user
  | _ => False

/-- A successful call moves what it asks to move. -/
theorem Effect.movesStatus (hw : l.WellFormed) {a : OrderAnswer} (h : Effect now l call (.ok a) l')
    (hask : l.AsksToMove id call) : movesStatus id l l' = true := by
  cases h with
  | listed call _ reads => cases call <;> simp [OrderCall.isListing, AsksToMove] at reads hask
  | added | recounted | deleted => cases hask
  | moved move =>
    obtain rfl : _ = id := hask
    exact move.movesStatus
  | bought _ moves =>
    obtain ⟨o, ho, -⟩ := (mem_basketIds_iff hw).mp hask
    obtain ⟨o', ho', hlt⟩ := moves.status_lt hask ho
    simp [Ledger.movesStatus, ho, ho', (Int16.ne_of_lt hlt).symm]

/-! ## The law -/

/-- **The history of an order.** In every ledger that can arise, a call takes an order away only if
it is its owner's successful deletion from the basket, and else takes it one `HistoryStep` further.
In a run an identifier has at most three status moves, and once deleted it never comes back. -/
theorem order_history (hl : l.Reachable) :
    (∀ now call id o, l.orders.get? id = some o →
      let after := l.perform now call
      (after.state.orders.get? id = none →
        o.isInBasket ∧ call = .delete o.owner id ∧ after.result = .ok .nothing) ∧
      ∀ o', after.state.orders.get? id = some o' → o.HistoryStep id call after.result o') ∧
    (∀ now call id a, (l.perform now call).result = .ok a → l.AsksToMove id call →
      movesStatus id l (l.perform now call).state = true) ∧
    (∀ id events, statusMoves id l events ≤ 3) ∧
    ∀ id o before later, l.orders.get? id = some o → (l.replay before).orders.get? id = none →
      ((l.replay before).replay later).orders.get? id = none := by
  have hw := hl.wellFormed
  refine ⟨fun now call id o ho => ?_, fun now call id a hr hask => ?_, fun id events => ?_,
    fun id o before later ho hn => ?_⟩
  · have he := perform_effect now call l
    exact ⟨he.deleted_of_get?_eq_none ho, fun o' ho' => he.historyStep hw ho ho'⟩
  · have he := perform_effect now call l
    rw [hr] at he
    exact he.movesStatus hw hask
  · exact Nat.le_trans (statusMoves_le_movesLeft hw id events) (movesLeft_le_three hw id)
  · have hle := Int64.le_trans (hw.orders ho).id_le (lastOrder_le_replay l before)
    exact (Gone.replay ⟨hn, hle⟩ later).1

/-- Once the four kettles are out of the basket, their order is gone for good. -/
theorem order_history_shop :
    shop.Reachable ∧ ∀ later,
      ((shop.replay [.call .epoch (.delete 7 1)]).replay later).orders.get? 1 = none :=
  ⟨shop_reachable, fun later =>
    (order_history shop_reachable).2.2.2 1 (.fresh 1 7 1 4 .epoch) [.call .epoch (.delete 7 1)] later
      (by decide) (by decide)⟩

end Ledger

end Marketplace
