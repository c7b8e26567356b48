import Marketplace.Proofs.Order.Reachable
import Marketplace.Proofs.Sql.Reading

/-!
# What the listings return

* `mem_listing_iff` and `listing_pairwise`: the rows of a listing, and their order.
* `Ledger.adornment`: what a ledger adds to the rows, which is what `adorn` returns.
* `perform_basket`, `perform_bought`, `perform_sold`: the listings never fail on a well-formed
  ledger, and return their rows one by one.
-/

namespace Marketplace

namespace Ledger

variable {now : Instant} {l l' : Ledger} {user viewer : UserId} {filter : OrderFilter}
  {r : OrderRow} {rows : List OrderRow}

/-! ## Rows -/

theorem mem_listing_iff : r ∈ l.listing filter ↔
    (∃ id, l.orders.get? id = some r.order) ∧ l.row? r.order = some r ∧ filter.accepts r := by
  simp only [listing, List.mem_reverse, List.mem_filter, List.mem_filterMap, Table.mem_values_iff]
  constructor
  · rintro ⟨⟨o, ho, hr⟩, ha⟩
    obtain ⟨p, -, rfl⟩ := Option.map_eq_some_iff.mp hr
    exact ⟨ho, hr, ha⟩
  · rintro ⟨ho, hr, ha⟩
    exact ⟨⟨r.order, ho, hr⟩, ha⟩

/-- The orders stand by increasing identifier, their own. -/
theorem WellFormed.values_pairwise (hw : l.WellFormed) :
    l.orders.values.Pairwise fun a b => a.id < b.id := by
  rw [Table.values, List.pairwise_map]
  refine l.orders.increasing.imp_of_mem fun {a b} ha hb hlt => ?_
  rwa [(hw.orders (Table.get?_eq_some_iff.mpr ha)).id_eq,
    (hw.orders (Table.get?_eq_some_iff.mpr hb)).id_eq]

/-- The rows of a listing stand by decreasing identifier. -/
theorem listing_pairwise (hw : l.WellFormed) (filter : OrderFilter) :
    (l.listing filter).Pairwise fun a b => b.order.id < a.order.id := by
  rw [listing, List.pairwise_reverse]
  refine (hw.values_pairwise.filterMap l.row? fun a b hlt r hr r' hr' => ?_).filter _
  obtain ⟨_, -, rfl⟩ := Option.map_eq_some_iff.mp hr
  obtain ⟨_, -, rfl⟩ := Option.map_eq_some_iff.mp hr'
  exact hlt

/-! ## What is added to them -/

/-- The images and the viewer's favourites for the products of some rows. -/
def adornment (l : Ledger) (viewer : UserId) (rows : List OrderRow) : Adornment :=
  let products := distinct (rows.map (·.order.product))
  ⟨l.firstImages products, products.filter fun id => l.favourites.contains (viewer, id)⟩

theorem adorn_returns_iff {a : Adornment} :
    (adorn viewer rows).Returns (answer now) l a l' ↔ l.adornment viewer rows = a ∧ l = l' := by
  unfold adorn adornment
  dsimp only
  split
  · rename_i hnone
    rw [hnone]
    exact Work.done_returns
  · simp only [Work.bind_returns, Work.query_returns, answer, Outcome.ok, Work.pure_eq,
      Work.done_returns, Except.ok.injEq, List.contains_eq_mem]
    constructor
    · rintro ⟨_, _, ⟨rfl, rfl⟩, _, _, ⟨rfl, rfl⟩, rfl, rfl⟩
      exact ⟨rfl, rfl⟩
    · rintro ⟨rfl, rfl⟩
      exact ⟨_, l, ⟨rfl, rfl⟩, _, l, ⟨rfl, rfl⟩, rfl, rfl⟩

/-- A row as the viewer sees it in a basket. -/
def entryOf (l : Ledger) (viewer : UserId) (rows : List OrderRow) (r : OrderRow) : BasketEntry :=
  r.basketEntry ((l.adornment viewer rows).image r) ((l.adornment viewer rows).isFavourite r)

/-- A row as the viewer sees it in a list of orders, if its status means something. -/
def viewOf? (l : Ledger) (viewer : UserId) (rows : List OrderRow) (r : OrderRow) :
    Except UnknownCode OrderView :=
  r.view? ((l.adornment viewer rows).image r) ((l.adornment viewer rows).isFavourite r)

/-- The orders that the viewer is shown for a filter. -/
def Shows (l : Ledger) (viewer : UserId) (filter : OrderFilter) (os : List OrderView) : Prop :=
  (l.listing filter).Forall₂ (fun r o => l.viewOf? viewer (l.listing filter) r = .ok o) os

/-! ## Listings -/

theorem basketEntries_returns_iff {es : List BasketEntry} :
    (basketEntries user).Returns (answer now) l es l' ↔
      (l.listing (.inBasket user)).map (l.entryOf user (l.listing (.inBasket user))) = es ∧
        l = l' := by
  unfold basketEntries
  simp only [Work.bind_returns, Work.query_returns, answer, Outcome.ok, Work.pure_eq,
    Work.done_returns, adorn_returns_iff, Except.ok.injEq]
  constructor
  · rintro ⟨_, _, ⟨rfl, rfl⟩, _, _, ⟨rfl, rfl⟩, rfl, rfl⟩
    exact ⟨rfl, rfl⟩
  · rintro ⟨rfl, rfl⟩
    exact ⟨_, l, ⟨rfl, rfl⟩, _, l, ⟨rfl, rfl⟩, rfl, rfl⟩

theorem listOrders_returns_iff {os : List OrderView} :
    (listOrders filter viewer).Returns (answer now) l os l' ↔ l.Shows viewer filter os ∧ l = l' := by
  unfold listOrders Shows
  simp only [Work.bind_returns, Work.query_returns, answer, Outcome.ok, Work.ofExcept_returns,
    adorn_returns_iff, Except.ok.injEq, mapError_eq_ok_iff, mapM_eq_ok_iff]
  constructor
  · rintro ⟨_, _, ⟨rfl, rfl⟩, _, _, ⟨rfl, rfl⟩, hos, rfl⟩
    exact ⟨hos, rfl⟩
  · rintro ⟨hos, rfl⟩
    exact ⟨_, l, ⟨rfl, rfl⟩, _, l, ⟨rfl, rfl⟩, hos, rfl⟩

/-- In a well-formed ledger every row can be shown. -/
theorem exists_shows (hw : l.WellFormed) (viewer : UserId) (filter : OrderFilter) :
    ∃ os, l.Shows viewer filter os := by
  refine exists_forall₂_of_forall_mem fun r hr => ?_
  obtain ⟨⟨id, ho⟩, -, -⟩ := mem_listing_iff.mp hr
  obtain ⟨s, hs⟩ := (hw.orders ho).status
  rw [viewOf?, OrderRow.view?, hs, OrderStatus.ofCode?_code]
  exact ⟨_, rfl⟩

theorem perform_basket (now : Instant) (user : UserId) (l : Ledger) :
    (l.perform now (.basket user)).result =
      .ok (.entries ((l.listing (.inBasket user)).map
        (l.entryOf user (l.listing (.inBasket user))))) :=
  (perform_of_returns (Work.map_returns.mpr
    ⟨_, basketEntries_returns_iff.mpr ⟨rfl, rfl⟩, rfl⟩)).1

/-- A call that lists orders returns all rows that pass its filter. -/
theorem perform_orders (hw : l.WellFormed) (now : Instant) {call : OrderCall}
    (hcall : call.work = OrderAnswer.orders <$> listOrders filter viewer) :
    ∃ os, l.Shows viewer filter os ∧ (l.perform now call).result = .ok (.orders os) := by
  obtain ⟨os, hos⟩ := exists_shows hw viewer filter
  have hreturns : call.work.Returns (answer now) l (.orders os) l := by
    rw [hcall]
    exact Work.map_returns.mpr ⟨os, listOrders_returns_iff.mpr ⟨hos, rfl⟩, rfl⟩
  exact ⟨os, hos, (perform_of_returns hreturns).1⟩

theorem perform_bought (hw : l.WellFormed) (now : Instant) (user : UserId) :
    ∃ os, l.Shows user (.notInBasket user) os ∧
      (l.perform now (.bought user)).result = .ok (.orders os) :=
  perform_orders hw now rfl

theorem perform_sold (hw : l.WellFormed) (now : Instant) (user : UserId) :
    ∃ os, l.Shows user (.soldBy user) os ∧
      (l.perform now (.sold user)).result = .ok (.orders os) :=
  perform_orders hw now rfl

end Ledger

end Marketplace
