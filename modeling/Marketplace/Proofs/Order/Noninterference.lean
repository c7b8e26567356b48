import Marketplace.Proofs.Order.Reachable

/-!
# What one buyer learns of another

* `SameOrders p l l'`: the orders with `p` are the same in two ledgers.
* `SameView user l l'`: the products, the images, the counter of identifiers, and the orders and
  favourites of `user` are the same. It is all that a buyer's calls can read: each question that
  they ask has the same answer in both ledgers (`Question.agrees`).
* `Effect.sameOrders`: a call leaves all orders but its caller's as they are.
* `noninterference`: on ledgers with the same view, a buyer's call has the same result and leaves
  the same view.
-/

namespace Marketplace

namespace Ledger

/-- The orders with `p` are the same in both ledgers. -/
def SameOrders (p : StoredOrder → Prop) (l l' : Ledger) : Prop :=
  ∀ id o, p o → (l.orders.get? id = some o ↔ l'.orders.get? id = some o)

/-- A buyer cannot tell the two ledgers apart. -/
structure SameView (user : UserId) (l l' : Ledger) : Prop where
  products : l.products = l'.products
  images : l.images = l'.images
  lastOrder : l.lastOrder = l'.lastOrder
  favourites : ∀ id, (user, id) ∈ l.favourites ↔ (user, id) ∈ l'.favourites
  orders : SameOrders (·.owner = user) l l'

variable {now : Instant} {user : UserId} {target : OrderStatus} {l l' l'' : Ledger} {id : OrderId}
  {p : StoredOrder → Prop} {o : StoredOrder}

theorem SameOrders.refl (p : StoredOrder → Prop) (l : Ledger) : SameOrders p l l :=
  fun _ _ _ => Iff.rfl

theorem SameOrders.trans (h : SameOrders p l l') (h' : SameOrders p l' l'') : SameOrders p l l'' :=
  fun id o ho => (h id o ho).trans (h' id o ho)

/-! ## A call leaves the orders of others alone -/

/-- Only orders without `p` stand under `id`, before and after the write. -/
theorem sameOrders_storeOrder (hold : ∀ o, l.orders.get? id = some o → ¬ p o) (hnew : ¬ p o) :
    SameOrders p l (l.storeOrder id o) := by
  intro k o' ho'
  by_cases hk : id = k
  · subst hk
    rw [get?_storeOrder_self]
    constructor
    · intro h
      exact (hold o' h ho').elim
    · intro h
      cases h
      exact (hnew ho').elim
  · rw [get?_storeOrder_ne hk]

theorem sameOrders_dropOrder (hold : ∀ o, l.orders.get? id = some o → ¬ p o) :
    SameOrders p l (l.dropOrder id) := by
  intro k o' ho'
  by_cases hk : id = k
  · subst hk
    rw [get?_dropOrder_self]
    constructor
    · intro h
      exact (hold o' h ho').elim
    · intro h
      cases h
  · rw [get?_dropOrder_ne hk]

/-- The order under `id` is `user`'s, so it is none of the others'. -/
theorem own_of_found (found : l.orders.get? id = some o) (owner : o.owner = user) :
    ∀ o', l.orders.get? id = some o' → ¬ o'.owner ≠ user := by
  intro o' ho' hne
  obtain rfl := Option.some.inj (found.symm.trans ho')
  exact hne owner

theorem Moved.sameOrders (h : Moved now user target id l l') :
    SameOrders (·.owner ≠ user) l l' := by
  cases h with
  | onward found owner =>
    exact sameOrders_storeOrder (own_of_found found owner) (not_not_intro owner)
  | @leave o p found owner =>
    have hstock : SameOrders (·.owner ≠ user) l (l.takeStock o.product p o.count) := .refl _ l
    exact hstock.trans
      (sameOrders_storeOrder (own_of_found found owner) (not_not_intro owner))

theorem Bought.sameOrders {ids : List OrderId} (h : Bought now user ids l l') :
    SameOrders (·.owner ≠ user) l l' := by
  induction h with
  | nil => exact .refl _ _
  | cons first _ ih => exact first.sameOrders.trans ih

theorem Effect.sameOrders {call : OrderCall} {r : Except OrderError OrderAnswer}
    (h : Effect now l call r l') (hw : l.WellFormed) :
    SameOrders (·.owner ≠ call.user) l l' := by
  cases h with
  | refused | listed => exact .refl _ _
  | @added user product count _ _ _ _ _ free =>
    -- No order stands under the identifier that is about to be given.
    have hnone := hw.get?_lastOrder_succ free
    have hold : ∀ o, l.orders.get? (l.lastOrder + 1) = some o → ¬ o.owner ≠ user := by
      intro o ho
      rw [hnone] at ho
      cases ho
    have hown : (StoredOrder.fresh (l.lastOrder + 1) user product count now).owner = user := rfl
    exact sameOrders_storeOrder hold (not_not_intro hown)
  | recounted _ found owner =>
    exact sameOrders_storeOrder (own_of_found found owner) (not_not_intro owner)
  | moved move => exact move.sameOrders
  | bought _ moves => exact moves.sameOrders
  | deleted found owner => exact sameOrders_dropOrder (own_of_found found owner)

/-! ## What a view tells -/

theorem SameView.get?_filter (h : SameView user l l') (id : OrderId) :
    (l.orders.get? id).filter (·.owner = user) = (l'.orders.get? id).filter (·.owner = user) := by
  refine Option.ext fun o => ?_
  simp only [Option.filter_eq_some_iff, decide_eq_true_eq]
  constructor
  · rintro ⟨ho, hu⟩
    exact ⟨(h.orders id o hu).mp ho, hu⟩
  · rintro ⟨ho, hu⟩
    exact ⟨(h.orders id o hu).mpr ho, hu⟩

theorem SameOrders.basketOrder?_eq (h : SameOrders (·.owner = user) l l') (id : OrderId) :
    l.basketOrder? id user = l'.basketOrder? id user := by
  refine Option.ext fun o => ?_
  rw [basketOrder?_eq_some_iff, basketOrder?_eq_some_iff]
  constructor
  · rintro ⟨ho, hu, hb⟩
    exact ⟨(h id o hu).mp ho, hu, hb⟩
  · rintro ⟨ho, hu, hb⟩
    exact ⟨(h id o hu).mpr ho, hu, hb⟩

/-- The orders with `p` are listed in the same order, that of their identifiers. -/
theorem SameOrders.values_eq {p : StoredOrder → Bool} (h : SameOrders (p ·) l l') :
    l.orders.values.filter p = l'.orders.values.filter p := by
  have hrows : l.orders.rows.filter (p ·.2) = l'.orders.rows.filter (p ·.2) := by
    refine Table.rows_eq_of_mem_iff (l.orders.increasing.filter _)
      (l'.orders.increasing.filter _) ?_
    rintro ⟨id, o⟩
    simp only [List.mem_filter, ← Table.get?_eq_some_iff]
    constructor
    · rintro ⟨ho, hp⟩
      exact ⟨(h id o hp).mp ho, hp⟩
    · rintro ⟨ho, hp⟩
      exact ⟨(h id o hp).mpr ho, hp⟩
  simp only [Table.values, List.filter_map, Function.comp_def, hrows]

theorem SameOrders.basketIds_eq (h : SameOrders (·.owner = user) l l') :
    l.basketIds user = l'.basketIds user := by
  have hb : SameOrders (fun o => decide (o.owner = user ∧ o.isInBasket) = true) l l' :=
    fun id o ho => h id o (of_decide_eq_true ho).1
  rw [basketIds, hb.values_eq, basketIds]

/-- A listing by a filter that picks orders of `user` only is the same. -/
theorem SameView.listing_eq (h : SameView user l l') {filter : OrderFilter}
    (hf : ∀ r, filter.accepts r → r.order.owner = user) : l.listing filter = l'.listing filter := by
  have key (l : Ledger) : (l.orders.values.filterMap l.row?).filter filter.accepts
      = ((l.orders.values.filter (·.owner = user)).filterMap l.row?).filter filter.accepts := by
    induction l.orders.values with
    | nil => rfl
    | cons o os ih =>
      by_cases hu : o.owner = user
      · simp only [List.filter_cons, hu, decide_true, if_true, List.filterMap_cons]
        cases l.row? o with
        | none => exact ih
        | some r => simp only [List.filter_cons, ih]
      · simp only [List.filter_cons, hu, decide_false, Bool.false_eq_true, if_false,
          List.filterMap_cons]
        cases hr : l.row? o with
        | none => exact ih
        | some r =>
          obtain ⟨p, -, rfl⟩ := Option.map_eq_some_iff.mp hr
          have hno : filter.accepts ⟨o, p.offer, p.available⟩ = false := by
            rw [Bool.eq_false_iff]
            exact fun ha => hu (hf _ ha)
          simp only [List.filter_cons, hno, Bool.false_eq_true, if_false, ih]
  have hvalues :
      l.orders.values.filter (·.owner = user) = l'.orders.values.filter (·.owner = user) :=
    SameOrders.values_eq fun id o ho => h.orders id o (of_decide_eq_true ho)
  have hrow : l.row? = l'.row? := by
    funext o
    rw [row?, h.products, row?]
  rw [listing, key, hvalues, hrow, listing, key]

theorem SameView.firstImages_eq (h : SameView user l l') (ids : List ProductId) :
    l.firstImages ids = l'.firstImages ids := by
  have hfirst : l.firstImage? = l'.firstImage? := by
    funext id
    rw [firstImage?, h.images, firstImage?]
  rw [firstImages, hfirst, firstImages]

theorem SameView.storeOrder (h : SameView user l l') (id : OrderId) (o : StoredOrder) :
    SameView user (l.storeOrder id o) (l'.storeOrder id o) where
  products := h.products
  images := h.images
  lastOrder := h.lastOrder
  favourites := h.favourites
  orders k o' ho' := by
    by_cases hk : id = k
    · subst hk
      rw [get?_storeOrder_self, get?_storeOrder_self]
    · rw [get?_storeOrder_ne hk, get?_storeOrder_ne hk]
      exact h.orders k o' ho'

theorem SameView.dropOrder (h : SameView user l l') (id : OrderId) :
    SameView user (l.dropOrder id) (l'.dropOrder id) where
  products := h.products
  images := h.images
  lastOrder := h.lastOrder
  favourites := h.favourites
  orders k o' ho' := by
    by_cases hk : id = k
    · subst hk
      rw [get?_dropOrder_self, get?_dropOrder_self]
    · rw [get?_dropOrder_ne hk, get?_dropOrder_ne hk]
      exact h.orders k o' ho'

/-! ## The questions of a buyer -/

/-- The questions that a buyer's calls ask without knowing that an order is the buyer's. -/
inductive OwnQuestion (user : UserId) : {β : Type} → OrderQuery β → Prop where
  | lockProduct (id : ProductId) : OwnQuestion user (.lockProduct id)
  | decrementStock (id : ProductId) (count : Int32) : OwnQuestion user (.decrementStock id count)
  | insertOrder (o : NewOrder) : OwnQuestion user (.insertOrder o)
  | lockOrder (id : OrderId) : OwnQuestion user (.lockOrder id user)
  | writeCount (id : OrderId) (count : Int32) : OwnQuestion user (.writeCount id user count)
  | deleteBasketOrder (id : OrderId) : OwnQuestion user (.deleteBasketOrder id user)
  | basketOrderIds : OwnQuestion user (.basketOrderIds user)
  | loadOrders (filter : OrderFilter) (own : ∀ r, filter.accepts r → r.order.owner = user) :
    OwnQuestion user (.loadOrders filter)
  | firstImages (ids : List ProductId) : OwnQuestion user (.firstImages ids)
  | favourites (ids : List ProductId) : OwnQuestion user (.favourites user ids)

theorem OwnQuestion.agrees {β : Type} {q : OrderQuery β} (hq : OwnQuestion user q) (now : Instant)
    (h : SameView user l l') :
    (answer now q l).result = (answer now q l').result ∧
      SameView user (answer now q l).state (answer now q l').state := by
  cases hq with
  | lockProduct id => exact ⟨by simp only [answer, Outcome.ok, h.products], h⟩
  | decrementStock id count =>
    simp only [answer, ← h.products]
    cases (l.products.get? id).filter (count ≤ ·.available) with
    | none => exact ⟨rfl, h⟩
    | some p => exact ⟨rfl, rfl, h.images, h.lastOrder, h.favourites, h.orders⟩
  | insertOrder o =>
    simp only [answer, ← h.lastOrder]
    split
    · exact ⟨rfl, h⟩
    · have hs := h.storeOrder (l.lastOrder + 1)
        ⟨l.lastOrder + 1, o.owner, o.product, o.count, o.status, now, now⟩
      exact ⟨rfl, hs.products, hs.images, rfl, hs.favourites, hs.orders⟩
  | lockOrder id =>
    simp only [answer, ← h.get?_filter]
    cases (l.orders.get? id).filter (·.owner = user) with
    | none => exact ⟨rfl, h⟩
    | some o => cases hs : OrderStatus.ofCode? o.status <;> simp only [hs] <;> exact ⟨rfl, h⟩
  | writeCount id count =>
    simp only [answer, ← h.orders.basketOrder?_eq]
    cases l.basketOrder? id user with
    | none => exact ⟨rfl, h⟩
    | some o => exact ⟨rfl, h.storeOrder id _⟩
  | deleteBasketOrder id =>
    simp only [answer, ← h.orders.basketOrder?_eq]
    cases l.basketOrder? id user with
    | none => exact ⟨rfl, h⟩
    | some o => exact ⟨rfl, h.dropOrder id⟩
  | basketOrderIds => exact ⟨congrArg Except.ok h.orders.basketIds_eq, h⟩
  | loadOrders filter own => exact ⟨congrArg Except.ok (h.listing_eq own), h⟩
  | firstImages ids => exact ⟨congrArg Except.ok (h.firstImages_eq ids), h⟩
  | favourites ids =>
    refine ⟨congrArg Except.ok ?_, h⟩
    simp only [h.favourites]

theorem OwnQuestion.query_agrees {β : Type} {q : OrderQuery β} (hq : OwnQuestion user q)
    (h : SameView user l l') :
    (Work.query q : OrderWork β).Agrees (answer now) (fun _ => SameView user) l l' :=
  have ⟨hr, hs⟩ := hq.agrees now h
  Work.query_agrees hr fun _ _ => hs

/-! ## Moves

A status is written without a look at the owner, so a move needs more than the view: the order under
its identifier is the same in both ledgers, as it was locked for its owner before. -/

/-- The same view, and the same order under `id`. -/
structure SameHeld (user : UserId) (id : OrderId) (l l' : Ledger) : Prop
    extends SameView user l l' where
  held : l.orders.get? id = l'.orders.get? id

theorem lockOrder_agrees (h : SameView user l l') :
    (Work.query (.lockOrder id user) : OrderWork _).Agrees (answer now)
      (fun held l l' => SameView user l l' ∧ (held.isSome → SameHeld user id l l')) l l' := by
  obtain ⟨hr, -⟩ := (OwnQuestion.lockOrder id).agrees now h
  have hstate (l : Ledger) : (answer now (.lockOrder id user) l).state = l := by
    simp only [answer]
    cases (l.orders.get? id).filter (·.owner = user) with
    | none => rfl
    | some o => cases hs : OrderStatus.ofCode? o.status <;> simp only [hs] <;> rfl
  refine Work.query_agrees hr fun held hheld => ?_
  rw [hstate, hstate]
  refine ⟨h, fun hsome => ⟨h, ?_⟩⟩
  obtain ⟨x, rfl⟩ := Option.isSome_iff_exists.mp hsome
  obtain ⟨⟨o, ho, hu, -⟩, -⟩ := lockOrder_returns.mp (Work.query_returns.mpr ⟨hheld, hstate l⟩)
  rw [ho, (h.orders id o hu).mp ho]

theorem commitStock_agrees {product : ProductId} {count : Int32} (h : SameHeld user id l l') :
    (commitStock product count).Agrees (answer now) (fun _ => SameHeld user id) l l' := by
  obtain ⟨hr, hs⟩ := (OwnQuestion.decrementStock product count).agrees now h.toSameView
  have horders (l : Ledger) :
      (answer now (.decrementStock product count) l).state.orders = l.orders := by
    simp only [answer]
    cases (l.products.get? product).filter (count ≤ ·.available) <;> rfl
  have hheld : SameHeld user id (answer now (.decrementStock product count) l).state
      (answer now (.decrementStock product count) l').state :=
    ⟨hs, by rw [horders, horders, h.held]⟩
  refine Work.bind_agrees (Work.query_agrees hr fun _ _ => hheld) fun _ m m' hm => ?_
  exact Work.require_agrees fun _ => hm

theorem writeStatus_agrees {source : OrderStatus} (h : SameHeld user id l l') :
    (Work.query (.writeStatus id source target) : OrderWork _).Agrees (answer now)
      (fun _ => SameView user) l l' := by
  have hs : (answer now (.writeStatus id source target) l).result
        = (answer now (.writeStatus id source target) l').result ∧
      SameView user (answer now (.writeStatus id source target) l).state
        (answer now (.writeStatus id source target) l').state := by
    simp only [answer, ← h.held]
    cases (l.orders.get? id).filter (·.status = source.code) with
    | none => exact ⟨rfl, h.toSameView⟩
    | some o => exact ⟨rfl, h.toSameView.storeOrder id _⟩
  exact Work.query_agrees hs.1 fun _ _ => hs.2

theorem moveOrder_agrees (h : SameView user l l') :
    (moveOrder id user target).Agrees (answer now) (fun _ => SameView user) l l' := by
  unfold moveOrder
  refine Work.bind_agrees (lockOrder_agrees h) fun r m m' hm => ?_
  refine Work.orFail_bind_agrees fun held hr => ?_
  have hm : SameHeld user id m m' := hm.2 (by rw [hr]; rfl)
  refine Work.require_bind_agrees fun _ => ?_
  have hend {m m' : Ledger} (hm : SameHeld user id m m') {line : LogLine} : (do
      let affected ← Work.query (.writeStatus id held.status target)
      Work.require (affected ≠ 0) (.noAffectedRows .statusUpdate)
      Work.log line : OrderWork Unit).Agrees (answer now) (fun _ => SameView user) m m' := by
    refine Work.bind_agrees (writeStatus_agrees hm) fun _ m m' hm => ?_
    exact Work.require_bind_agrees fun _ => Work.log_agrees hm
  by_cases hb : held.status = .inBasket
  · rw [if_pos hb]
    exact Work.bind_agrees (commitStock_agrees hm) fun _ m m' hm => hend hm
  · rw [if_neg hb]
    exact hend hm

theorem buyOrders_agrees {ids : List OrderId} (h : SameView user l l') :
    (buyOrders user ids).Agrees (answer now) (fun _ => SameView user) l l' := by
  induction ids generalizing l l' with
  | nil => exact Work.done_agrees h
  | cons id ids ih => exact Work.bind_agrees (moveOrder_agrees h) fun _ m m' hm => ih hm

theorem buyBasket_agrees (h : SameView user l l') :
    (buyBasket user).Agrees (answer now) (fun _ => SameView user) l l' := by
  unfold buyBasket
  refine Work.bind_agrees (OwnQuestion.basketOrderIds.query_agrees h) fun ids m m' hm => ?_
  refine Work.require_bind_agrees fun _ => ?_
  exact Work.bind_agrees (buyOrders_agrees hm) fun _ m m' hm => Work.done_agrees hm

/-! ## The basket -/

theorem reserve_agrees {product : ProductId} {count : Int32} (h : SameView user l l') :
    (reserve product count).Agrees (answer now) (fun _ => SameView user) l l' := by
  unfold reserve
  refine Work.require_bind_agrees fun _ => ?_
  refine Work.bind_agrees ((OwnQuestion.lockProduct product).query_agrees h) fun r m m' hm => ?_
  refine Work.orFail_bind_agrees fun p _ => ?_
  dsimp only
  split
  · exact Work.bind_agrees (Work.log_agrees hm) fun _ _ _ _ => Work.fail_agrees _
  · exact Work.done_agrees hm

theorem addToBasket_agrees {product : ProductId} {count : Int32} (h : SameView user l l') :
    (addToBasket user product count).Agrees (answer now) (fun _ => SameView user) l l' := by
  unfold addToBasket
  refine Work.bind_agrees (reserve_agrees h) fun p m m' hm => ?_
  refine Work.bind_agrees ((OwnQuestion.insertOrder _).query_agrees hm) fun _ m m' hm => ?_
  refine Work.bind_agrees ((OwnQuestion.firstImages _).query_agrees hm) fun _ m m' hm => ?_
  exact Work.bind_agrees ((OwnQuestion.favourites _).query_agrees hm)
    fun _ m m' hm => Work.done_agrees hm

theorem setCount_agrees {count : Int32} (h : SameView user l l') :
    (setCount user id count).Agrees (answer now) (fun _ => SameView user) l l' := by
  unfold setCount
  refine Work.require_bind_agrees fun _ => ?_
  refine Work.bind_agrees ((OwnQuestion.lockOrder id).query_agrees h) fun _ m m' hm => ?_
  refine Work.orFail_bind_agrees fun held _ => ?_
  refine Work.require_bind_agrees fun _ => ?_
  refine Work.bind_agrees (Work.discard_agrees (reserve_agrees hm)) fun _ m m' hm => ?_
  refine Work.bind_agrees ((OwnQuestion.writeCount id count).query_agrees hm) fun _ m m' hm => ?_
  exact Work.require_agrees fun _ => hm

theorem deleteFromBasket_agrees (h : SameView user l l') :
    (deleteFromBasket user id).Agrees (answer now) (fun _ => SameView user) l l' := by
  unfold deleteFromBasket
  refine Work.bind_agrees ((OwnQuestion.deleteBasketOrder id).query_agrees h) fun _ m m' hm => ?_
  exact Work.require_agrees fun _ => hm

/-! ## Listings -/

theorem adorn_agrees {rows : List OrderRow} (h : SameView user l l') :
    (adorn user rows).Agrees (answer now) (fun _ => SameView user) l l' := by
  unfold adorn
  dsimp only
  split
  · exact Work.done_agrees h
  · refine Work.bind_agrees ((OwnQuestion.firstImages _).query_agrees h) fun _ m m' hm => ?_
    exact Work.bind_agrees ((OwnQuestion.favourites _).query_agrees hm)
      fun _ m m' hm => Work.done_agrees hm

theorem owner_of_inBasket {r : OrderRow} (h : (OrderFilter.inBasket user).accepts r) :
    r.order.owner = user := by
  simp only [OrderFilter.accepts, Bool.and_eq_true, decide_eq_true_eq] at h
  exact h.1

theorem owner_of_notInBasket {r : OrderRow} (h : (OrderFilter.notInBasket user).accepts r) :
    r.order.owner = user := by
  simp only [OrderFilter.accepts, Bool.and_eq_true, decide_eq_true_eq] at h
  exact h.1

theorem basketEntries_agrees (h : SameView user l l') :
    (basketEntries user).Agrees (answer now) (fun _ => SameView user) l l' := by
  unfold basketEntries
  refine Work.bind_agrees ((OwnQuestion.loadOrders _ fun _ => owner_of_inBasket).query_agrees h)
    fun rows m m' hm => ?_
  exact Work.bind_agrees (adorn_agrees hm) fun _ m m' hm => Work.done_agrees hm

theorem listOrders_agrees (h : SameView user l l') :
    (listOrders (.notInBasket user) user).Agrees (answer now) (fun _ => SameView user) l l' := by
  unfold listOrders
  refine Work.bind_agrees ((OwnQuestion.loadOrders _ fun _ => owner_of_notInBasket).query_agrees h)
    fun rows m m' hm => ?_
  exact Work.bind_agrees (adorn_agrees hm) fun _ m m' hm => Work.ofExcept_agrees fun _ _ => hm

end Ledger

/-- Whether a call is about the caller's own orders; the other one lists sales to others. -/
def OrderCall.isOwn : OrderCall → Bool
  | sold _ => false
  | _ => true

namespace Ledger

variable {now : Instant} {l l' : Ledger} {call : OrderCall}

/-! ## Calls -/

theorem work_agrees (hown : call.isOwn) (h : SameView call.user l l') :
    call.work.Agrees (answer now) (fun _ => SameView call.user) l l' := by
  cases call with
  | add => exact Work.map_agrees (addToBasket_agrees h)
  | setCount => exact Work.map_agrees (setCount_agrees h)
  | setStatus => exact Work.map_agrees (moveOrder_agrees h)
  | buy => exact Work.map_agrees (buyBasket_agrees h)
  | delete => exact Work.map_agrees (deleteFromBasket_agrees h)
  | basket => exact Work.map_agrees (basketEntries_agrees h)
  | bought => exact Work.map_agrees (listOrders_agrees h)
  | sold => cases hown

theorem perform_agrees (hown : call.isOwn) (h : SameView call.user l l') (now : Instant) :
    (l.perform now call).result = (l'.perform now call).result ∧
      SameView call.user (l.perform now call).state (l'.perform now call).state := by
  obtain ⟨hr, hs⟩ : call.work.Agrees (answer now) (fun _ => SameView call.user) l l' :=
    work_agrees hown h
  unfold perform transact OrderCall.announce
  cases hl : (call.work.run (answer now) l).result with
  | error e =>
    rw [hl] at hr
    simp only [← hr, hl]
    exact ⟨trivial, h⟩
  | ok a =>
    rw [hl] at hr
    simp only [← hr, hl]
    exact ⟨trivial, hs a hl⟩

/-- **Noninterference between buyers.** On two ledgers that can arise and that a buyer cannot tell
apart, each call about the buyer's own orders has the same result and leaves ledgers that the buyer
cannot tell apart. It leaves every order of others as it was. -/
theorem noninterference (hl : l.Reachable) (hl' : l'.Reachable) (hown : call.isOwn)
    (hview : SameView call.user l l') (now : Instant) :
    let after := l.perform now call
    let after' := l'.perform now call
    after.result = after'.result ∧ SameView call.user after.state after'.state ∧
      SameOrders (·.owner ≠ call.user) l after.state ∧
      SameOrders (·.owner ≠ call.user) l' after'.state := by
  obtain ⟨hr, hs⟩ := perform_agrees hown hview now
  exact ⟨hr, hs, (perform_effect now call l).sameOrders hl.wellFormed,
    (perform_effect now call l').sameOrders hl'.wellFormed⟩

/-- The small shop once another buyer has put two kettles in the basket. -/
def crowdedShop : Ledger := shop.apply (.call .epoch (.add 9 1 2))

/-- The same shop once that buyer has given up. -/
def quietShop : Ledger := crowdedShop.apply (.call .epoch (.delete 9 3))

theorem crowdedShop_reachable : crowdedShop.Reachable := shop_reachable.apply _

theorem quietShop_reachable : quietShop.Reachable := crowdedShop_reachable.apply _

/-- The other buyer's order is the same to buyer 7 as none: an attempt to pay it fails alike, and
both ledgers stay alike. -/
theorem noninterference_shop : SameView 7 crowdedShop quietShop ∧
    (crowdedShop.orders.get? 3).isSome ∧ quietShop.orders.get? 3 = none ∧
    (crowdedShop.perform .epoch (.setStatus 7 3 .paid)).result = .error (.orderNotFound 3) ∧
    (quietShop.perform .epoch (.setStatus 7 3 .paid)).result = .error (.orderNotFound 3) ∧
    SameView 7 (crowdedShop.perform .epoch (.setStatus 7 3 .paid)).state
      (quietShop.perform .epoch (.setStatus 7 3 .paid)).state := by
  have hothers := (perform_effect .epoch (.delete 9 3) crowdedShop).sameOrders
    crowdedShop_reachable.wellFormed
  have horders : SameOrders (·.owner = 7) crowdedShop quietShop := fun id o ho =>
    hothers id o (ho.trans_ne (by decide))
  have hfavourites : crowdedShop.favourites = quietShop.favourites := by decide
  have hview : SameView 7 crowdedShop quietShop :=
    ⟨Table.ext_rows (by decide), by decide, by decide, fun _ => by rw [hfavourites], horders⟩
  have hown : (OrderCall.setStatus 7 3 .paid).isOwn := rfl
  obtain ⟨hr, hs, -⟩ := noninterference crowdedShop_reachable quietShop_reachable hown hview .epoch
  have hfail : (crowdedShop.perform .epoch (.setStatus 7 3 .paid)).result
      = .error (.orderNotFound 3) := by decide
  exact ⟨hview, by decide, by decide, hfail, hr.symm.trans hfail, hs⟩

end Ledger

end Marketplace
