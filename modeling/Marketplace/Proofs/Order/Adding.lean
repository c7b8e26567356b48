import Marketplace.Proofs.Order.ExactListing
import Marketplace.Proofs.Order.Representation

/-!
# What adding returns, and what the basket shows of it

Adding builds its entry from the product that it has checked, and asks for one image and one
favourite. A listing builds its entries from joined rows and asks for all products at once. Both
show the same of a new order, as products stand under their own identifiers and a new order gets an
identifier behind all others.

* `listing_addOrder`: the new order comes first in its basket, before the rows that were there.
* `perform_add_cases`: an addition is refused for one of the causes of `ReserveRefusal`, or it is
  made; the last identifier of an order ends all additions.
* `add_agrees_with_listing`: the outcome of every addition.
-/

namespace Marketplace

namespace Ledger

variable {now : Instant} {l : Ledger} {user : UserId} {id : ProductId} {count : Int32} {p : Product}

/-! ## The basket after an addition -/

/-- The new row comes first, and all others are as they were. -/
theorem listing_addOrder (hw : l.WellFormed) (free : l.lastOrder ≠ Int64.maxValue)
    (hp : l.products.get? id = some p) (now : Instant) (user : UserId) (count : Int32) :
    (l.addOrder now user id count).listing (.inBasket user) =
      ⟨.fresh (l.lastOrder + 1) user id count now, p.offer, p.available⟩ ::
        l.listing (.inBasket user) := by
  let o := StoredOrder.fresh (l.lastOrder + 1) user id count now
  have hvalues : (l.addOrder now user id count).orders.values = l.orders.values ++ [o] := by
    apply Table.values_insert_of_lt
    intro j b hb
    exact Int64.lt_of_le_of_lt (hw.orders hb).id_le (lastOrder_lt_succ free)
  have hrow : (l.addOrder now user id count).row? = l.row? := rfl
  have hnew : l.row? o = some ⟨o, p.offer, p.available⟩ := by simp [row?, o, StoredOrder.fresh, hp]
  have haccepts : (OrderFilter.inBasket user).accepts ⟨o, p.offer, p.available⟩ := by
    have hbasket : o.isInBasket := StoredOrder.isInBasket_fresh
    have howner : o.owner = user := rfl
    simp [OrderFilter.accepts, hbasket, howner]
  simp [listing, hvalues, hrow, hnew, haccepts, o]

/-- A basket shows its rows, each with the image and the favourite of its own product. -/
theorem perform_basket_rows (now : Instant) (user : UserId) (l : Ledger) :
    (l.perform now (.basket user)).result = .ok (.entries ((l.listing (.inBasket user)).map fun r =>
      r.basketEntry (l.firstImage? r.order.product)
        (l.favourites.contains (user, r.order.product)))) := by
  have hmap := List.map_congr_left fun r (hr : r ∈ l.listing (.inBasket user)) =>
    (entryOf_eq hr : l.entryOf user _ r = _)
  rw [perform_basket, hmap]

/-- The entry that adding returns is the one that the basket shows of the new order. -/
theorem newEntry_eq (hw : l.WellFormed) (hp : l.products.get? id = some p) (now : Instant)
    (user : UserId) (count : Int32) : l.newEntry now user id count p =
      l.entryFor user (.fresh (l.lastOrder + 1) user id count now) p := by
  have hid : p.id = id := hw.products hp
  have himage : (l.firstImages [id]).get? id = l.firstImage? id := by simp [get?_firstImages]
  simp [newEntry, entryFor, StoredOrder.fresh, hid, himage]

theorem perform_basket_addOrder (hw : l.WellFormed) (free : l.lastOrder ≠ Int64.maxValue)
    (hp : l.products.get? id = some p) (before after : Instant) : ∃ es,
      (l.perform before (.basket user)).result = .ok (.entries es) ∧
      ((l.addOrder now user id count).perform after (.basket user)).result
        = .ok (.entries (l.newEntry now user id count p :: es)) := by
  refine ⟨_, perform_basket_rows before user l, ?_⟩
  rw [perform_basket_rows, listing_addOrder hw free hp, newEntry_eq hw hp]
  rfl

/-! ## The outcome of an addition -/

/-- All that an addition can come to. -/
theorem perform_add_cases (hw : l.WellFormed) (now : Instant) (user : UserId) (id : ProductId)
    (count : Int32) :
    let o := l.perform now (.add user id count)
    (∃ e, ReserveRefusal l id count e ∧ o.result = .error e ∧ o.state = l) ∨
      ∃ p, 0 < count ∧ l.products.get? id = some p ∧ p.isActive ∧ count ≤ p.available ∧
        (l.lastOrder = Int64.maxValue ∧ o.result = .error .identifiersUsedUp ∧ o.state = l ∨
          l.lastOrder ≠ Int64.maxValue ∧ o.result = .ok (.entry (l.newEntry now user id count p)) ∧
            o.state = l.addOrder now user id count) := by
  intro o
  rcases perform_cases now (.add user id count) l with ⟨e, hresult, hstate⟩ | ⟨a, hresult, hreturns⟩
  · have hrefusal := perform_refusal hw hresult
    cases hrefusal with
    | add reserve => exact .inl ⟨e, reserve, hresult, hstate⟩
    | identifier positive product active enough last =>
      exact .inr ⟨_, positive, product, active, enough, .inl ⟨last, hresult, hstate⟩⟩
  · obtain ⟨e, he, rfl⟩ := Work.map_returns.mp hreturns
    obtain ⟨p, positive, product, active, enough, free, rfl, hstate⟩ := addToBasket_returns.mp he
    exact .inr ⟨p, positive, product, active, enough, .inr ⟨free, hresult, hstate.symm⟩⟩

theorem perform_add_of_not_positive (hw : l.WellFormed) (now : Instant) (user : UserId)
    (notPositive : ¬ 0 < count) :
    (l.perform now (.add user id count)).result = .error (.invalidCount count) ∧
      (l.perform now (.add user id count)).state = l := by
  rcases perform_add_cases hw now user id count with ⟨e, refusal, hresult⟩ | ⟨p, positive, -⟩
  · cases refusal with
    | count => exact hresult
    | product positive | stock positive => exact absurd positive notPositive
  · exact absurd positive notPositive

theorem perform_add_of_inactive (hw : l.WellFormed) (now : Instant) (user : UserId)
    (positive : 0 < count) (inactive : ∀ p, l.products.get? id = some p → p.isActive = false) :
    (l.perform now (.add user id count)).result = .error (.productNotFound id) ∧
      (l.perform now (.add user id count)).state = l := by
  rcases perform_add_cases hw now user id count with ⟨e, refusal, hresult⟩ | ⟨p, -, hp, active, -⟩
  · cases refusal with
    | count notPositive => exact absurd positive notPositive
    | product => exact hresult
    | stock _ found active =>
      rw [inactive _ found] at active
      cases active
  · rw [inactive p hp] at active
    cases active

/-- With a positive count of an active product, only the stock and the identifiers are in the way. -/
theorem perform_add_of_active (hw : l.WellFormed) (now : Instant) (user : UserId)
    (positive : 0 < count) (hp : l.products.get? id = some p) (active : p.isActive) :
    let o := l.perform now (.add user id count)
    (p.available < count ∧ o.result = .error (.insufficientStock count p.available) ∧ o.state = l) ∨
      count ≤ p.available ∧
        (l.lastOrder = Int64.maxValue ∧ o.result = .error .identifiersUsedUp ∧ o.state = l ∨
          l.lastOrder ≠ Int64.maxValue ∧ o.result = .ok (.entry (l.newEntry now user id count p)) ∧
            o.state = l.addOrder now user id count) := by
  intro o
  rcases perform_add_cases hw now user id count with ⟨e, refusal, hresult⟩ | ⟨p', -, hp', -, enough, h⟩
  · cases refusal with
    | count notPositive => exact absurd positive notPositive
    | product _ inactive =>
      rw [inactive p hp] at active
      cases active
    | stock _ found _ short =>
      obtain rfl := Option.some.inj (found.symm.trans hp)
      exact .inl ⟨short, hresult⟩
  · obtain rfl := Option.some.inj (hp'.symm.trans hp)
    exact .inr ⟨enough, h⟩

/-- **Adding agrees with listing.** In a ledger that can arise, an addition is refused for its count,
for a product that is missing or withdrawn, and for its stock, in this order, and a refusal changes
nothing. Otherwise it returns an entry that the user's basket shows from then on in front of the
entries that it showed before, and nothing else has changed. Additions end only when all
identifiers of 64 bits are given. -/
theorem add_agrees_with_listing (events : List OrderEvent) (now : Instant) (user : UserId)
    (id : ProductId) (count : Int32) :
    let l := empty.replay events
    let added := l.perform now (.add user id count)
    (count ≤ 0 → added.result = .error (.invalidCount count) ∧ added.state = l) ∧
    (0 < count → (∀ p, l.products.get? id = some p → p.isActive = false) →
      added.result = .error (.productNotFound id) ∧ added.state = l) ∧
    ∀ p, 0 < count → l.products.get? id = some p → p.isActive →
      (p.available < count →
        added.result = .error (.insufficientStock count p.available) ∧ added.state = l) ∧
      (count ≤ p.available →
        (∃ e, added.result = .ok (.entry e) ∧
          (∀ before after, ∃ es,
            (l.perform before (.basket user)).result = .ok (.entries es) ∧
            (added.state.perform after (.basket user)).result = .ok (.entries (e :: es))) ∧
          added.state.products = l.products ∧ added.state.images = l.images ∧
          added.state.favourites = l.favourites ∧ l.orders.get? e.id = none ∧
          ∀ k ≠ e.id, added.state.orders.get? k = l.orders.get? k) ∨
        ((empty.addedIds events).length : Int) = Int64.maxValue.toInt ∧
          added.result = .error .identifiersUsedUp ∧ added.state = l) := by
  intro l added
  have hw : l.WellFormed := WellFormed.empty.replay events
  refine ⟨fun notPositive => ?_, fun positive inactive => ?_, fun p positive hp active => ?_⟩
  · exact perform_add_of_not_positive hw now user (Int32.not_lt.mpr notPositive)
  · exact perform_add_of_inactive hw now user positive inactive
  · rcases perform_add_of_active hw now user positive hp active with ⟨short, h⟩ | ⟨enough, h⟩
    · exact ⟨fun _ => h, fun enough => absurd short (Int32.not_lt.mpr enough)⟩
    · refine ⟨fun short => absurd short (Int32.not_lt.mpr enough), fun _ => ?_⟩
      rcases h with ⟨last, h⟩ | ⟨free, hresult, hstate⟩
      · have hcount := lastOrder_replay empty events
        have hzero : empty.lastOrder.toInt = 0 := by decide
        rw [hzero, Int.zero_add] at hcount
        exact .inr ⟨hcount.symm.trans (congrArg Int64.toInt last), h⟩
      · refine .inl ⟨_, hresult, ?_⟩
        rw [show added.state = l.addOrder now user id count from hstate]
        refine ⟨perform_basket_addOrder hw free hp, rfl, rfl, rfl, hw.get?_lastOrder_succ free, ?_⟩
        intro k hk
        exact get?_addOrder_ne fun h => hk h.symm

/-- A third order of kettles comes first in the basket of the shop. -/
theorem add_agrees_with_listing_shop :
    let l := empty.replay dressedShop
    let added := l.perform .epoch (.add 7 1 6)
    ∃ e, added.result = .ok (.entry e) ∧ ∀ before after, ∃ es,
      (l.perform before (.basket 7)).result = .ok (.entries es) ∧
      (added.state.perform after (.basket 7)).result = .ok (.entries (e :: es)) := by
  intro l added
  have h := ((add_agrees_with_listing dressedShop .epoch 7 1 6).2.2 { kettles with available := 6 }
    (by decide) (by decide) rfl).2 (by decide)
  rcases h with ⟨e, hresult, hbasket, -⟩ | ⟨used, -⟩
  · exact ⟨e, hresult, hbasket⟩
  · exact absurd used (by decide)

end Ledger

end Marketplace
