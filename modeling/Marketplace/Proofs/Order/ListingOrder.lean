import Marketplace.Order.Statements
import Marketplace.Proofs.Order.Clock
import Marketplace.Proofs.Order.Listing

/-!
# The order of the listings

A ledger lists by decreasing identifier. A database is asked to sort a basket by the time of
creation and the other two listings by the time of the last update, the latest first
(`loadOrders_sorts`). With a clock that goes on at every call, `listing_order` says when the two
are the same: always for a basket, and for the other listings exactly if the listed orders were last
moved in the order of their identifiers.
-/

namespace Marketplace

/-- The column by which a database sorts a listing. -/
def OrderFilter.sortColumn : OrderFilter → String
  | inBasket _ => "\"orders\".\"created_at\""
  | notInBasket _ | soldBy _ => "\"orders\".\"updated_at\""

theorem loadOrders_sorts (filter : OrderFilter) : ∃ start params,
    Sql.loadOrders filter = .bound (start ++ " ORDER BY " ++ filter.sortColumn ++ " DESC") params := by
  have hsplit (start column : String) : start ++ ") ORDER BY " ++ column ++ " DESC"
      = start ++ ")" ++ " ORDER BY " ++ column ++ " DESC" := by
    have hclose : ") ORDER BY " = ")" ++ " ORDER BY " := rfl
    rw [hclose, ← String.append_assoc]
  cases filter <;> exact ⟨_, _, congrArg (Sql.Statement.bound · _) (hsplit _ _)⟩

/-- Identifier, creation and last update of an order. -/
abbrev Stamps := OrderId × Instant × Instant

def StoredOrder.stamps (o : StoredOrder) : Stamps := (o.id, o.createdAt, o.updatedAt)

def OrderView.stamps (o : OrderView) : Stamps := (o.id, o.createdAt, o.updatedAt)

namespace Ledger

variable {l : Ledger} {user viewer : UserId} {filter : OrderFilter} {r : OrderRow} {o : OrderView}
  {os : List OrderView} {events : List OrderEvent} {now : Instant}

/-! ## Rows and what is shown of them -/

/-- The rows of a listing stand by decreasing time of creation. -/
theorem listing_createdAt (clock : (readings events).Pairwise (· < ·)) (filter : OrderFilter) :
    ((empty.replay events).listing filter).Pairwise fun a b =>
      b.order.createdAt < a.order.createdAt := by
  have hw : (empty.replay events).WellFormed := WellFormed.empty.replay events
  refine (listing_pairwise hw filter).imp_of_mem fun {a b} ha hb hlt => ?_
  obtain ⟨⟨i, hi⟩, -, -⟩ := mem_listing_iff.mp ha
  obtain ⟨⟨k, hk⟩, -, -⟩ := mem_listing_iff.mp hb
  rw [(hw.orders hi).id_eq, (hw.orders hk).id_eq] at hlt
  exact createdAt_lt clock hk hi hlt

theorem stamps_of_viewOf? {rows : List OrderRow} (h : l.viewOf? viewer rows r = .ok o) :
    r.order.stamps = o.stamps := by
  obtain ⟨s, -, rfl⟩ := map_eq_ok_iff.mp h
  rfl

/-- What is shown has the stamps of the rows, one by one. -/
theorem Shows.stamps_eq (h : l.Shows viewer filter os) :
    (l.listing filter).map (·.order.stamps) = os.map (·.stamps) := by
  rw [← List.forall₂_eq_eq_eq, List.forall₂_map_left_iff, List.forall₂_map_right_iff]
  exact h.imp fun _ _ hr => stamps_of_viewOf? hr

/-- What is shown is in the order of the rows. -/
theorem Shows.pairwise_iff (h : l.Shows viewer filter os) (R : Stamps → Stamps → Prop) :
    (os.Pairwise fun a b => R a.stamps b.stamps) ↔
      (l.listing filter).Pairwise fun a b => R a.order.stamps b.order.stamps := by
  have hos := List.pairwise_map (f := OrderView.stamps) (R := R) (l := os)
  have hrows := List.pairwise_map (f := fun r : OrderRow => r.order.stamps) (R := R)
    (l := l.listing filter)
  rw [← hos, ← hrows, h.stamps_eq]

/-- An order that is shown in a list of orders stands in the ledger, beyond the basket. -/
theorem Shows.stored (h : l.Shows viewer filter os) (hfilter : ∀ owner, filter ≠ .inBasket owner)
    (ho : o ∈ os) : ∃ id s, l.orders.get? id = some s ∧ s.hasLeftBasket ∧ s.stamps = o.stamps := by
  have hmem : o.stamps ∈ (l.listing filter).map (·.order.stamps) :=
    h.stamps_eq ▸ List.mem_map_of_mem ho
  obtain ⟨r, hr, heq⟩ := List.mem_map.mp hmem
  obtain ⟨⟨id, hs⟩, -, haccepts⟩ := mem_listing_iff.mp hr
  refine ⟨id, r.order, hs, ?_, heq⟩
  cases filter with
  | inBasket owner => exact (hfilter owner rfl).elim
  | notInBasket | soldBy =>
    simp only [OrderFilter.accepts, Bool.and_eq_true] at haccepts
    exact haccepts.2

/-! ## The two orders -/

/-- The orders stand by the time of their last update, the latest first. -/
def ByUpdate (os : List OrderView) : Prop := os.Pairwise fun a b => b.updatedAt ≤ a.updatedAt

/-- No listed order was last moved after one that was added later. -/
def MovedInTurn (events : List OrderEvent) (os : List OrderView) : Prop :=
  ∀ a ∈ os, ∀ b ∈ os, a.id < b.id → lastMove a.id empty events ≤ lastMove b.id empty events

/-- In a list by decreasing identifier, what holds of each two holds of those with identifiers in
that order. -/
theorem pairwise_iff_of_id {R : OrderView → OrderView → Prop}
    (h : os.Pairwise fun a b => b.id < a.id) :
    os.Pairwise R ↔ ∀ a ∈ os, ∀ b ∈ os, b.id < a.id → R a b := by
  constructor
  · intro hR a ha b hb hlt
    obtain ⟨i, hi, rfl⟩ := List.getElem_of_mem ha
    obtain ⟨k, hk, rfl⟩ := List.getElem_of_mem hb
    rcases Nat.lt_trichotomy i k with hik | rfl | hki
    · exact List.pairwise_iff_getElem.mp hR i k hi hk hik
    · exact (Int64.lt_irrefl hlt).elim
    · exact (Int64.lt_asymm hlt (List.pairwise_iff_getElem.mp h k i hk hi hki)).elim
  · intro hR
    exact h.imp_of_mem fun ha hb hlt => hR _ ha _ hb hlt

theorem Shows.createdAt (clock : (readings events).Pairwise (· < ·))
    (h : (empty.replay events).Shows viewer filter os) :
    os.Pairwise fun a b => b.createdAt < a.createdAt :=
  (h.pairwise_iff fun a b => b.2.1 < a.2.1).mpr (listing_createdAt clock filter)

theorem Shows.byUpdate_iff (clock : (readings events).Pairwise (· < ·))
    (h : (empty.replay events).Shows viewer filter os)
    (hfilter : ∀ owner, filter ≠ .inBasket owner) : ByUpdate os ↔ MovedInTurn events os := by
  have hw : (empty.replay events).WellFormed := WellFormed.empty.replay events
  have hid : os.Pairwise fun a b => b.id < a.id :=
    (h.pairwise_iff fun a b => b.1 < a.1).mpr (listing_pairwise hw filter)
  have hmoves (a : OrderView) (ha : a ∈ os) (b : OrderView) (hb : b ∈ os) :
      a.updatedAt ≤ b.updatedAt ↔ lastMove a.id empty events ≤ lastMove b.id empty events := by
    obtain ⟨i, s, hs, hleft, hstamps⟩ := h.stored hfilter ha
    obtain ⟨k, s', hs', hleft', hstamps'⟩ := h.stored hfilter hb
    simp only [StoredOrder.stamps, OrderView.stamps, Prod.mk.injEq] at hstamps hstamps'
    obtain ⟨hi, -, hupdated⟩ := hstamps
    obtain ⟨hk, -, hupdated'⟩ := hstamps'
    rw [← hupdated, ← hupdated', ← hi, ← hk, (hw.orders hs).id_eq, (hw.orders hs').id_eq]
    exact updatedAt_le_iff clock hs hleft hs' hleft'
  rw [ByUpdate, pairwise_iff_of_id hid, MovedInTurn]
  constructor
  · exact fun hall a ha b hb hlt => (hmoves a ha b hb).mp (hall b hb a ha hlt)
  · exact fun hall a ha b hb hlt => (hmoves b hb a ha).mpr (hall b hb a ha hlt)

/-- **The order of the listings.** With a clock that goes on at every call, a basket comes by
decreasing time of creation, as the database is asked to sort it. The other two listings come in
that order too, and by decreasing time of the last update, by which the database is asked to sort
them, exactly if the listed orders were last moved in the order in which they were added. -/
theorem listing_order (clock : (readings events).Pairwise (· < ·)) (now : Instant) (user : UserId) :
    let l := empty.replay events
    (∀ filter, ∃ start params, Sql.loadOrders filter =
      .bound (start ++ " ORDER BY " ++ filter.sortColumn ++ " DESC") params) ∧
    (∃ es, (l.perform now (.basket user)).result = .ok (.entries es) ∧
      es.Pairwise fun a b => b.createdAt < a.createdAt) ∧
    ∀ call ∈ [OrderCall.bought user, OrderCall.sold user],
      ∃ os, (l.perform now call).result = .ok (.orders os) ∧
        (os.Pairwise fun a b => b.createdAt < a.createdAt) ∧
        (ByUpdate os ↔ MovedInTurn events os) := by
  have hw : (empty.replay events).WellFormed := WellFormed.empty.replay events
  refine ⟨loadOrders_sorts, ⟨_, perform_basket now user _, ?_⟩, fun call hcall => ?_⟩
  · rw [List.pairwise_map]
    exact listing_createdAt clock _
  · obtain ⟨filter, hfilter, os, hshows, hresult⟩ : ∃ filter, (∀ owner, filter ≠ .inBasket owner) ∧
        ∃ os, (empty.replay events).Shows user filter os ∧
          ((empty.replay events).perform now call).result = .ok (.orders os) := by
      simp only [List.mem_cons, List.not_mem_nil, or_false] at hcall
      rcases hcall with rfl | rfl
      · exact ⟨_, by simp, perform_bought hw now user⟩
      · exact ⟨_, by simp, perform_sold hw now user⟩
    exact ⟨os, hresult, hshows.createdAt clock, hshows.byUpdate_iff clock hfilter⟩

/-- A time within the first minute of 1970. -/
def atSecond (n : Fin 60) : Instant :=
  ⟨n, 0, by omega, by omega, Instant.epoch.nanos_lt, by omega⟩

/-- Two orders of kettles leave the basket, the one added later first. -/
def movedOutOfTurn : List OrderEvent :=
  [.putProduct kettles, .call (atSecond 1) (.add 7 1 4), .call (atSecond 2) (.add 7 1 3),
    .call (atSecond 3) (.setStatus 7 2 .inProcessing),
    .call (atSecond 4) (.setStatus 7 1 .inProcessing)]

/-- The order that was moved last comes last. -/
theorem bought_not_byUpdate : (readings movedOutOfTurn).Pairwise (· < ·) ∧
    ∃ os, ((empty.replay movedOutOfTurn).perform (atSecond 5) (.bought 7)).result = .ok (.orders os) ∧
      os.map (·.id) = [2, 1] ∧ ¬ ByUpdate os :=
  ⟨by decide, _, rfl, by decide, by unfold ByUpdate; decide⟩

/-- They leave it in the order in which they were added. -/
def movedInTurn : List OrderEvent :=
  [.putProduct kettles, .call (atSecond 1) (.add 7 1 4), .call (atSecond 2) (.add 7 1 3),
    .call (atSecond 3) (.setStatus 7 1 .inProcessing),
    .call (atSecond 4) (.setStatus 7 2 .inProcessing)]

/-- The basket of the buyer before the orders leave it, and the orders of both sides after that. -/
theorem listing_order_shop : (readings movedInTurn).Pairwise (· < ·) ∧
    (∃ es, ((empty.replay (movedInTurn.take 3)).perform (atSecond 5) (.basket 7)).result
        = .ok (.entries es) ∧
      es.map (·.id) = [2, 1] ∧ es.Pairwise fun a b => b.createdAt < a.createdAt) ∧
    (∃ os, ((empty.replay movedInTurn).perform (atSecond 5) (.bought 7)).result = .ok (.orders os) ∧
      os.map (·.id) = [2, 1] ∧ ByUpdate os) ∧
    ∃ os, ((empty.replay movedInTurn).perform (atSecond 5) (.sold 8)).result = .ok (.orders os) ∧
      os.map (·.id) = [2, 1] ∧ ByUpdate os := by
  have clock : (readings movedInTurn).Pairwise (· < ·) := by decide
  refine ⟨clock, ?_, ?_, ?_⟩
  · have adding : (readings (movedInTurn.take 3)).Pairwise (· < ·) := by decide
    obtain ⟨-, ⟨es, hes, hcreated⟩, -⟩ := listing_order adding (atSecond 5) 7
    refine ⟨es, hes, ?_, hcreated⟩
    cases hes
    rfl
  · obtain ⟨os, hos, -, hiff⟩ := (listing_order clock (atSecond 5) 7).2.2 (.bought 7) (by simp)
    cases hos
    exact ⟨_, rfl, rfl, hiff.mpr (by unfold MovedInTurn; decide)⟩
  · obtain ⟨os, hos, -, hiff⟩ := (listing_order clock (atSecond 5) 8).2.2 (.sold 8) (by simp)
    cases hos
    exact ⟨_, rfl, rfl, hiff.mpr (by unfold MovedInTurn; decide)⟩

end Ledger

end Marketplace
