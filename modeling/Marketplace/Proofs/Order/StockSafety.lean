import Marketplace.Proofs.Order.StockLedger
import Marketplace.Proofs.Order.Writes

/-!
# Nothing is oversold

* `Ledger.TakesSafely`: pieces are taken from a stock that has them, and the rest is exact.
* `Lowered`: what may become of a stock while its product is not put again.
* `Ledger.soldSince`: the pieces of a product in the orders that have left the basket between two
  ledgers. `sold_eq_add_soldSince` splits `Ledger.sold` in those and the earlier ones.
* `Ledger.Drawn`: what has become of a product since it was put. Each event keeps it.
* `stock_safety`: all of it for every run.
-/

namespace Marketplace

/-- A stock is what it was, or it has become less and not negative. -/
def Lowered (stock rest : Int32) : Prop := rest = stock ∨ 0 ≤ rest ∧ rest < stock

namespace Lowered

variable {a b c : Int32}

theorem refl (a : Int32) : Lowered a a := .inl rfl

theorem trans (h : Lowered a b) (h' : Lowered b c) : Lowered a c := by
  rcases h' with rfl | ⟨hc, hlt'⟩
  · exact h
  rcases h with rfl | ⟨-, hlt⟩
  · exact .inr ⟨hc, hlt'⟩
  · exact .inr ⟨hc, Int32.lt_trans hlt' hlt⟩

theorem le (h : Lowered a b) : b ≤ a := by
  rcases h with rfl | ⟨-, hlt⟩
  · exact Int32.le_refl _
  · exact Int32.le_of_lt hlt

theorem nonneg (h : Lowered a b) (ha : 0 ≤ a) : 0 ≤ b := by
  rcases h with rfl | ⟨hb, -⟩
  · exact ha
  · exact hb

/-- A negative stock has nothing that can be taken. -/
theorem eq_of_neg (h : Lowered a b) (ha : a < 0) : b = a := by
  rcases h with rfl | ⟨hb, hlt⟩
  · rfl
  · exact (Int32.not_lt.mpr hb (Int32.lt_trans hlt ha)).elim

end Lowered

/-- Taking pieces that are there leaves less. -/
theorem sub_bounds {a b : Int32} (positive : 0 < b) (enough : b ≤ a) : 0 ≤ a - b ∧ a - b < a := by
  have hrest := Ledger.toInt_sub_of_le positive enough
  have hzero : (0 : Int32).toInt = 0 := by decide
  have hpos := Int32.lt_iff_toInt_lt.mp positive
  have hle := Int32.le_iff_toInt_le.mp enough
  exact ⟨Int32.le_iff_toInt_le.mpr (by omega), Int32.lt_iff_toInt_lt.mpr (by omega)⟩

namespace Ledger

variable {now : Instant} {user : UserId} {target : OrderStatus} {l l' : Ledger} {id : ProductId}
  {order : OrderId} {p q : Product} {call : OrderCall} {r : Except OrderError OrderAnswer}

/-! ## One write of a stock -/

/-- If pieces are taken from a stock, it has them, and the difference is exact and not negative. -/
def TakesSafely (now : Instant) : {β : Type} → OrderQuery β → Ledger → Prop
  | _, .decrementStock id count, l =>
    (answer now (.decrementStock id count) l).result ≠ .ok 0 →
      ∃ p rest, l.products.get? id = some p ∧ 0 < count ∧ count ≤ p.available ∧
        (answer now (.decrementStock id count) l).state.products.get? id
          = some { p with available := rest } ∧
        rest.toInt = p.available.toInt - count.toInt ∧ 0 ≤ rest ∧ rest < p.available
  | _, _, _ => True

theorem Relied.takesSafely {β : Type} (q : OrderQuery β) (l : Ledger) (h : Relied q l) :
    TakesSafely now q l := by
  cases q with
  | decrementStock id count =>
    intro htaken
    rw [answer_decrementStock] at htaken ⊢
    cases hf : (l.products.get? id).filter (count ≤ ·.available) with
    | none =>
      rw [hf] at htaken
      exact (htaken rfl).elim
    | some p =>
      obtain ⟨hp, henough⟩ := Option.filter_eq_some_iff.mp hf
      have henough : count ≤ p.available := by simpa using henough
      exact ⟨p, p.available - count, hp, h, henough, Table.get?_insert_self _ _ _,
        toInt_sub_of_le h henough, sub_bounds h henough⟩
  | _ => trivial

/-! ## One call -/

theorem Moved.lowered (h : Moved now user target order l l') (hw : l.WellFormed)
    (hp : l.products.get? id = some p) :
    ∃ rest, l'.products.get? id = some { p with available := rest } ∧ Lowered p.available rest := by
  cases h with
  | onward => exact ⟨_, hp, .refl _⟩
  | @leave o p' found _ _ _ product enough =>
    simp only [storeOrder, takeStock, Table.get?_insert]
    by_cases hid : o.product = id
    · subst hid
      obtain rfl := Option.some.inj (product.symm.trans hp)
      exact ⟨_, if_pos rfl, .inr (sub_bounds (hw.orders found).count_pos enough)⟩
    · exact ⟨p.available, by rw [if_neg hid, hp], .refl _⟩

theorem Bought.lowered {ids : List OrderId} (h : Bought now user ids l l') (hw : l.WellFormed)
    (hp : l.products.get? id = some p) :
    ∃ rest, l'.products.get? id = some { p with available := rest } ∧ Lowered p.available rest := by
  induction h generalizing p with
  | nil => exact ⟨_, hp, .refl _⟩
  | cons first _ ih =>
    obtain ⟨rest, hp₁, h₁⟩ := first.lowered hw hp
    obtain ⟨rest', hp₂, h₂⟩ := ih (hw.moved first) hp₁
    exact ⟨rest', hp₂, h₁.trans h₂⟩

/-- No call makes a stock grow, or takes from a negative one. -/
theorem Effect.lowered (h : Effect now l call r l') (hw : l.WellFormed)
    (hp : l.products.get? id = some p) :
    ∃ rest, l'.products.get? id = some { p with available := rest } ∧ Lowered p.available rest := by
  cases h with
  | refused | listed | added | recounted | deleted => exact ⟨_, hp, .refl _⟩
  | moved move => exact move.lowered hw hp
  | bought _ moves => exact moves.lowered hw hp

/-! ## What is sold between two ledgers -/

/-- How many pieces of the product `id` the orders hold that are beyond the basket in `l'` and are
not in `l`. -/
def soldSince (l : Ledger) (id : ProductId) (l' : Ledger) : Int :=
  l'.orders.sum fun o =>
    if (l.orders.get? o.id).any (·.hasLeftBasket) then 0 else o.soldOf id

theorem HasSold.soldOf_eq {count : Int32} (h : l.HasSold id order count) :
    ∃ o, l.orders.get? order = some o ∧ o.soldOf id = count.toInt := by
  obtain ⟨o, ho, hproduct, hleft, rfl⟩ := h
  exact ⟨o, ho, if_pos ⟨hproduct, hleft⟩⟩

theorem hasSold_of_soldOf_ne_zero {o : StoredOrder} (ho : l.orders.get? order = some o)
    (h : o.soldOf id ≠ 0) : l.HasSold id order o.count ∧ o.soldOf id = o.count.toInt := by
  by_cases hs : o.product = id ∧ o.hasLeftBasket
  · exact ⟨⟨o, ho, hs.1, hs.2, rfl⟩, if_pos hs⟩
  · exact (h (if_neg hs)).elim

/-- The sold orders tell how much is sold. -/
theorem sold_congr (h : ∀ order count, l'.HasSold id order count ↔ l.HasSold id order count) :
    l'.sold id = l.sold id := by
  refine Table.sum_eq_of_parts fun order x hx => ?_
  constructor
  · rintro ⟨o, ho, rfl⟩
    obtain ⟨hs, heq⟩ := hasSold_of_soldOf_ne_zero ho hx
    rw [heq]
    exact ((h order o.count).mp hs).soldOf_eq
  · rintro ⟨o, ho, rfl⟩
    obtain ⟨hs, heq⟩ := hasSold_of_soldOf_ne_zero ho hx
    rw [heq]
    exact ((h order o.count).mpr hs).soldOf_eq

/-- If sold orders stay as they are, what is sold later is what was sold before and what has been
sold since. -/
theorem sold_eq_add_soldSince (hw' : l'.WellFormed) (id : ProductId)
    (kept : ∀ id order count, l.HasSold id order count → l'.HasSold id order count) :
    l'.sold id = l.sold id + l.soldSince id l' := by
  have hbefore : l.sold id = l'.orders.sum fun o =>
      if (l.orders.get? o.id).any (·.hasLeftBasket) then o.soldOf id else 0 := by
    refine Table.sum_eq_of_parts fun order x hx => ?_
    constructor
    · rintro ⟨o, ho, rfl⟩
      obtain ⟨hs, heq⟩ := hasSold_of_soldOf_ne_zero ho hx
      obtain ⟨o', ho', heq'⟩ := (kept _ _ _ hs).soldOf_eq
      obtain ⟨_, ho₁, -, hleft, -⟩ := hs
      refine ⟨o', ho', ?_⟩
      rw [(hw'.orders ho').id_eq, ho₁, Option.any_some, if_pos hleft, heq', heq]
    · rintro ⟨o', ho', rfl⟩
      rw [(hw'.orders ho').id_eq] at hx ⊢
      split at hx
      · rename_i hany
        rw [if_pos hany]
        obtain ⟨o, ho, hleft⟩ := (Option.any_eq_true _ _).mp hany
        obtain ⟨o₁, ho₁, hproduct, hleft', hcount⟩ := kept _ _ _ ⟨o, ho, rfl, hleft, rfl⟩
        obtain rfl := Option.some.inj (ho'.symm.trans ho₁)
        exact ⟨o, ho, by simp [StoredOrder.soldOf, hproduct, hleft, hleft', hcount]⟩
      · exact (hx rfl).elim
  rw [hbefore, soldSince, ← Table.sum_add]
  unfold sold
  congr 1
  funext o
  split <;> simp

/-! ## Since a product was put -/

/-- What has become of the product `p` from the ledger `start`, in which it has just been put, to
the ledger `l`. -/
structure Drawn (p : Product) (start l : Ledger) : Prop where
  /-- While it is there, its stock has gone into sold orders. -/
  present : ∀ {q}, l.products.get? p.id = some q →
    Lowered p.available q.available ∧
      p.available.toInt - q.available.toInt = l.sold p.id - start.sold p.id
  /-- Also after it was removed, no more is sold than there was. -/
  sold_le : l.sold p.id - start.sold p.id ≤ max 0 p.available.toInt

/-- What is left of a stock that was not negative bounds what has been taken from it. -/
theorem Drawn.of_present {start : Ledger} (h : l.products.get? p.id = some q)
    (lowered : Lowered p.available q.available)
    (gone : p.available.toInt - q.available.toInt = l.sold p.id - start.sold p.id) :
    Drawn p start l where
  present hq' := by
    obtain rfl := Option.some.inj (h.symm.trans hq')
    exact ⟨lowered, gone⟩
  sold_le := by
    rcases lowered with heq | ⟨hnonneg, -⟩
    · rw [heq] at gone
      omega
    · have hzero : (0 : Int32).toInt = 0 := by decide
      have := Int32.le_iff_toInt_le.mp hnonneg
      omega

theorem Drawn.of_absent {start : Ledger} (h : l.products.get? p.id = none)
    (sold_le : l.sold p.id - start.sold p.id ≤ max 0 p.available.toInt) : Drawn p start l where
  present hq := by
    rw [h] at hq
    cases hq
  sold_le := sold_le

theorem drawn_putProduct (l : Ledger) (p : Product) :
    Drawn p (l.putProduct p) (l.putProduct p) :=
  .of_present (Table.get?_insert_self _ _ _) (.refl _) (by omega)

theorem Drawn.perform {start : Ledger} (h : Drawn p start l) (hw : l.WellFormed) (now : Instant)
    (call : OrderCall) : Drawn p start (l.perform now call).state := by
  have he := perform_effect now call l
  have hbalanced : Balanced p.id l (l.perform now call).state := he.balanced hw
  cases hq : l.products.get? p.id with
  | some q =>
    obtain ⟨lowered, gone⟩ := h.present hq
    obtain ⟨rest, hq', hlowered⟩ := he.lowered hw hq
    obtain ⟨rest', hq'', hgone⟩ := hbalanced.present hq
    obtain rfl : rest = rest' := congrArg Product.available (Option.some.inj (hq'.symm.trans hq''))
    exact .of_present hq' (lowered.trans hlowered) (by simp only; omega)
  | none =>
    obtain ⟨hnone, hsame⟩ := hbalanced.absent hq
    have hsold := sold_congr fun order count =>
      ⟨hsame order count, hbalanced.kept order count⟩
    exact .of_absent hnone (hsold ▸ h.sold_le)

/-- Where the orders stay and another product may change, nothing happens to this one. -/
theorem Drawn.of_eq {start : Ledger} (h : Drawn p start l) (horders : l'.orders = l.orders)
    (hproduct : l'.products.get? p.id = l.products.get? p.id) : Drawn p start l' where
  present hq := by
    rw [hproduct] at hq
    simp only [sold, horders]
    exact h.present hq
  sold_le := by
    simp only [sold, horders]
    exact h.sold_le

/-- Each event but another put of the product keeps what is known of it. -/
theorem Drawn.apply {start : Ledger} (h : Drawn p start l) (hw : l.WellFormed) (e : OrderEvent)
    (notPut : ∀ q, e = .putProduct q → q.id ≠ p.id) : Drawn p start (l.apply e) := by
  cases e with
  | call now call => exact h.perform hw now call
  | putProduct q =>
    refine h.of_eq rfl ?_
    simp [Ledger.apply, putProduct, Table.get?_insert, notPut q rfl]
  | removeProduct id =>
    by_cases hid : id = p.id
    · subst hid
      exact .of_absent (by simp [Ledger.apply, removeProduct, Table.get?_erase]) h.sold_le
    · exact h.of_eq rfl (by simp [Ledger.apply, removeProduct, Table.get?_erase, hid])
  | addImage => exact h.of_eq rfl rfl
  | addFavourite => exact h.of_eq rfl rfl

theorem Drawn.replay {start : Ledger} (h : Drawn p start l) (hw : l.WellFormed)
    {events : List OrderEvent} (notPut : ∀ q, .putProduct q ∈ events → q.id ≠ p.id) :
    Drawn p start (l.replay events) := by
  induction events generalizing l with
  | nil => exact h
  | cons e events ih =>
    refine ih (h.apply hw e fun q he => notPut q (he ▸ List.mem_cons_self)) (hw.apply e) ?_
    exact fun q hq => notPut q (List.mem_cons_of_mem _ hq)

/-- A sold order stays sold in every run, with its count. -/
theorem HasSold.replay {count : Int32} (h : l.HasSold id order count) (hw : l.WellFormed)
    (events : List OrderEvent) : (l.replay events).HasSold id order count := by
  induction events generalizing l with
  | nil => exact h
  | cons e events ih =>
    refine ih ?_ (hw.apply e)
    cases e with
    | call now call => exact ((perform_effect now call l).balanced hw).kept order count h
    | putProduct | removeProduct | addImage | addFavourite => exact h

/-- A product stays in a run that does not remove it. -/
theorem isSome_get?_replay (hw : l.WellFormed) {events : List OrderEvent}
    (notRemoved : .removeProduct id ∉ events) (h : (l.products.get? id).isSome) :
    ((l.replay events).products.get? id).isSome := by
  induction events generalizing l with
  | nil => exact h
  | cons e events ih =>
    rw [List.mem_cons, not_or] at notRemoved
    refine ih (hw.apply e) notRemoved.2 ?_
    cases e with
    | call now call =>
      obtain ⟨p, hp⟩ := Option.isSome_iff_exists.mp h
      obtain ⟨rest, hp', -⟩ := (perform_effect now call l).lowered hw hp
      exact Option.isSome_iff_exists.mpr ⟨_, hp'⟩
    | putProduct q =>
      simp only [Ledger.apply, putProduct, Table.get?_insert]
      split
      · rfl
      · exact h
    | removeProduct id' =>
      have hne : id' ≠ id := fun he => notRemoved.1 (he ▸ rfl)
      simpa [Ledger.apply, removeProduct, Table.get?_erase, hne] using h
    | addImage | addFavourite => exact h

/-! ## The law -/

/-- **The safety of stock.** In every ledger that can arise, the work of a call takes pieces only
from a stock that has them, with an exact rest, and no call makes a stock grow. After a product was
put, as long as it is not put again, its stock is what it was or, if that was not negative, still is
not negative, and the orders that have left the basket since hold no more pieces than it had. -/
theorem stock_safety (hl : l.Reachable) :
    (∀ now (call : OrderCall), call.work.Along (answer now) (TakesSafely now) l) ∧
    (∀ now call id p, l.products.get? id = some p →
      ∃ q, (l.perform now call).state.products.get? id = some q ∧ q.available ≤ p.available) ∧
    ∀ p later, (∀ q, .putProduct q ∈ later → q.id ≠ p.id) →
      let start := l.putProduct p
      let now := start.replay later
      (.removeProduct p.id ∉ later → ∃ q, now.products.get? p.id = some q) ∧
      (∀ q, now.products.get? p.id = some q →
        (0 ≤ p.available → 0 ≤ q.available) ∧ (p.available < 0 → q.available = p.available)) ∧
      (0 ≤ p.available → start.soldSince p.id now ≤ p.available.toInt) := by
  have hw := hl.wellFormed
  refine ⟨fun now call => (work_relied hw now call).mono Relied.takesSafely,
    fun now call id p hp => ?_, fun p later notPut => ?_⟩
  · obtain ⟨rest, hp', lowered⟩ := (perform_effect now call l).lowered hw hp
    exact ⟨_, hp', lowered.le⟩
  · have hstart : (l.putProduct p).WellFormed := hw.apply (.putProduct p)
    have hdrawn := (drawn_putProduct l p).replay hstart notPut
    refine ⟨fun notRemoved => ?_, fun q hq => ?_, fun hnonneg => ?_⟩
    · refine Option.isSome_iff_exists.mp (isSome_get?_replay hstart notRemoved ?_)
      exact Option.isSome_iff_exists.mpr ⟨p, Table.get?_insert_self _ _ _⟩
    · obtain ⟨lowered, -⟩ := hdrawn.present hq
      exact ⟨lowered.nonneg, lowered.eq_of_neg⟩
    · have hsold := sold_eq_add_soldSince (hstart.replay later) p.id
        fun _ _ _ h => h.replay hstart later
      have hzero : (0 : Int32).toInt = 0 := by decide
      have hle := hdrawn.sold_le
      have := Int32.le_iff_toInt_le.mp hnonneg
      omega

/-- The shop puts ten kettles again and sells seven of them. -/
theorem stock_safety_shop :
    shop.Reachable ∧ (0 ≤ kettles.available →
      (shop.putProduct kettles).soldSince 1 ((shop.putProduct kettles).replay
        [.call .epoch (.buy 7)]) ≤ 10) ∧
      (shop.putProduct kettles).soldSince 1 ((shop.putProduct kettles).replay
        [.call .epoch (.buy 7)]) = 7 :=
  ⟨shop_reachable,
    ((stock_safety shop_reachable).2.2 kettles [.call .epoch (.buy 7)] (by simp)).2.2, by decide⟩

end Ledger

end Marketplace
