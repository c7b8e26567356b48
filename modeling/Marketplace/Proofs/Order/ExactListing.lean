import Marketplace.Proofs.Order.ListingOrder

/-!
# What stands in the listings

A listing joins its orders with their products, and then asks for the images and the favourites of
all these products at once. An entry shows what its own product has, whichever other products are
asked about.

* `mem_distinct`, `get?_firstImages`: what is asked for, and what the answer holds for a product.
* `entryFor`, `viewFor`: one order of one product, as somebody sees it.
* `firstImageAdded`: the image of a product, told from all that has happened (`firstImage?_replay`).
* `exact_listings`: the three listings hold exactly the orders they should, each once.
-/

namespace Marketplace

/-! ## What is asked for -/

/-- What stands under a key after a fold that puts `value i` under each `i`, if there is one. -/
theorem get?_foldl {α : Type} (value : Int64 → Option α) {step : Table α → Int64 → Table α}
    (hstep : ∀ t i k, (step t i).get? k = if i = k then (value i).or (t.get? k) else t.get? k)
    (ids : List Int64) (t : Table α) (k : Int64) :
    (ids.foldl step t).get? k = if k ∈ ids then (value k).or (t.get? k) else t.get? k := by
  induction ids generalizing t with
  | nil => simp
  | cons i ids ih =>
    rw [List.foldl_cons, ih, hstep]
    by_cases hi : i = k
    · subst hi
      cases value i <;> simp
    · have hne : k ≠ i := fun h => hi h.symm
      simp [hi, hne]

/-- Collapsing equal keys loses none. -/
theorem mem_distinct {ids : List Int64} {id : Int64} : id ∈ distinct ids ↔ id ∈ ids := by
  rw [distinct, Table.mem_keys_iff, get?_foldl fun _ => some ()]
  · by_cases hid : id ∈ ids <;> simp [hid]
  · intro t i k
    rw [Table.get?_insert, Option.some_or]

namespace Ledger

variable {now : Instant} {l l' : Ledger} {user viewer : UserId} {filter : OrderFilter}
  {r : OrderRow} {rows : List OrderRow} {o : StoredOrder} {p : Product} {id : ProductId}

/-- The images asked for are the first ones of their products. -/
theorem get?_firstImages (l : Ledger) (ids : List ProductId) (id : ProductId) :
    (l.firstImages ids).get? id = if id ∈ ids then l.firstImage? id else none := by
  rw [firstImages, get?_foldl l.firstImage?]
  · simp
  · intro t i k
    cases l.firstImage? i <;> simp [Table.get?_insert]

/-! ## What an entry shows -/

theorem adornment_image (h : r ∈ rows) :
    (l.adornment viewer rows).image r = l.firstImage? r.order.product := by
  have hasked : r.order.product ∈ distinct (rows.map (·.order.product)) :=
    mem_distinct.mpr (List.mem_map_of_mem h)
  rw [Adornment.image, adornment, get?_firstImages, if_pos hasked]

theorem adornment_isFavourite (h : r ∈ rows) : (l.adornment viewer rows).isFavourite r
    = l.favourites.contains (viewer, r.order.product) := by
  have hasked : r.order.product ∈ distinct (rows.map (·.order.product)) :=
    mem_distinct.mpr (List.mem_map_of_mem h)
  simp [Adornment.isFavourite, adornment, hasked]

/-- The order `o` of the product `p` in a basket, as `viewer` sees it. -/
def entryFor (l : Ledger) (viewer : UserId) (o : StoredOrder) (p : Product) : BasketEntry :=
  { id := o.id, owner := o.owner, product := o.product, count := o.count, offer := p.offer,
    available := p.available, image := l.firstImage? o.product,
    isFavourite := l.favourites.contains (viewer, o.product), createdAt := o.createdAt }

/-- The order `o` of the product `p`, of the given status, as `viewer` sees it. -/
def viewFor (l : Ledger) (viewer : UserId) (o : StoredOrder) (p : Product) (status : OrderStatus) :
    OrderView :=
  { id := o.id, owner := o.owner, product := o.product, count := o.count, status, offer := p.offer,
    image := l.firstImage? o.product, isFavourite := l.favourites.contains (viewer, o.product),
    createdAt := o.createdAt, updatedAt := o.updatedAt }

/-- The order stands in the ledger, and so does its product. -/
def Joins (l : Ledger) (o : StoredOrder) (p : Product) : Prop :=
  (∃ id, l.orders.get? id = some o) ∧ l.products.get? o.product = some p

theorem Joins.status (h : l.Joins o p) (hw : l.WellFormed) : ∃ s : OrderStatus, o.status = s.code := by
  obtain ⟨id, ho⟩ := h.1
  exact (hw.orders ho).status

/-- A listing has a row for each order with a product that passes its filter. -/
theorem mem_listing_iff_joins : r ∈ l.listing filter ↔
    ∃ o p, l.Joins o p ∧ filter.accepts ⟨o, p.offer, p.available⟩ ∧ ⟨o, p.offer, p.available⟩ = r := by
  rw [mem_listing_iff, row?]
  constructor
  · rintro ⟨ho, hr, haccepts⟩
    obtain ⟨p, hp, hr⟩ := Option.map_eq_some_iff.mp hr
    exact ⟨r.order, p, ⟨ho, hp⟩, hr ▸ haccepts, hr⟩
  · rintro ⟨o, p, ⟨ho, hp⟩, haccepts, rfl⟩
    exact ⟨ho, by rw [hp]; rfl, haccepts⟩

theorem entryOf_eq (h : r ∈ rows) : l.entryOf viewer rows r =
    r.basketEntry (l.firstImage? r.order.product)
      (l.favourites.contains (viewer, r.order.product)) := by
  rw [entryOf, adornment_image h, adornment_isFavourite h]

theorem viewOf?_eq (h : ⟨o, p.offer, p.available⟩ ∈ rows) {s : OrderStatus}
    (hs : o.status = s.code) :
    l.viewOf? viewer rows ⟨o, p.offer, p.available⟩ = .ok (l.viewFor viewer o p s) := by
  rw [viewOf?, adornment_image h, adornment_isFavourite h, OrderRow.view?, hs,
    OrderStatus.ofCode?_code]
  rfl

/-! ## The images of a product -/

/-- The image that an event adds for a product. -/
def addedImage? (id : ProductId) : OrderEvent → Option String
  | .addImage i url => if i = id then some url else none
  | _ => none

/-- The first image that a run adds for a product. -/
def firstImageAdded (id : ProductId) (events : List OrderEvent) : Option String :=
  events.findSome? (addedImage? id)

/-- An image shows only for a product that had none. -/
theorem firstImage?_apply (l : Ledger) (e : OrderEvent) (id : ProductId) :
    (l.apply e).firstImage? id = (l.firstImage? id).or (addedImage? id e) := by
  cases e with
  | addImage i url =>
    simp only [Ledger.apply, addImage, firstImage?, addedImage?, List.find?_append]
    cases l.images.find? (·.1 = id) <;> by_cases hi : i = id <;> simp [hi]
  | call now call =>
    have himages : (l.apply (.call now call)).images = l.images :=
      (perform_effect now call l).adornments_eq.1
    simp [firstImage?, himages, addedImage?]
  | putProduct | removeProduct | addFavourite => simp [addedImage?]; rfl

/-- A product shows the image that it had, or else the first one that is added. -/
theorem firstImage?_replay (l : Ledger) (events : List OrderEvent) (id : ProductId) :
    (l.replay events).firstImage? id = (l.firstImage? id).or (firstImageAdded id events) := by
  induction events generalizing l with
  | nil => simp [firstImageAdded]
  | cons e events ih =>
    rw [replay_cons, ih, firstImage?_apply, Option.or_assoc, firstImageAdded, firstImageAdded,
      List.findSome?_cons]
    cases addedImage? id e <;> simp

/-! ## The listings -/

/-- `xs` shows each order that stands in the ledger with its product and satisfies `P`, once, by
decreasing identifier. -/
structure ListsExactly {α : Type} (l : Ledger) (P : StoredOrder → Product → Prop)
    (Shown : StoredOrder → Product → α → Prop) (id : α → OrderId) (xs : List α) : Prop where
  decreasing : xs.Pairwise fun a b => id b < id a
  mem_iff : ∀ x, x ∈ xs ↔ ∃ o p, l.Joins o p ∧ P o p ∧ Shown o p x

theorem basket_listsExactly (hw : l.WellFormed) (user : UserId) :
    l.ListsExactly (fun o _ => o.owner = user ∧ o.isInBasket) (fun o p e => l.entryFor user o p = e)
      (·.id) ((l.listing (.inBasket user)).map (l.entryOf user (l.listing (.inBasket user)))) where
  decreasing := List.pairwise_map.mpr (listing_pairwise hw _)
  mem_iff e := by
    rw [List.mem_map]
    constructor
    · rintro ⟨r, hr, rfl⟩
      obtain ⟨o, p, hjoins, haccepts, rfl⟩ := mem_listing_iff_joins.mp hr
      exact ⟨o, p, hjoins, by simpa [OrderFilter.accepts] using haccepts, (entryOf_eq hr).symm⟩
    · rintro ⟨o, p, hjoins, haccepts, rfl⟩
      have hr : ⟨o, p.offer, p.available⟩ ∈ l.listing (.inBasket user) :=
        mem_listing_iff_joins.mpr ⟨o, p, hjoins, by simpa [OrderFilter.accepts] using haccepts, rfl⟩
      exact ⟨_, hr, entryOf_eq hr⟩

/-- What is shown for a filter are the views of its rows. -/
theorem Shows.mem_iff {os : List OrderView} (h : l.Shows viewer filter os) {v : OrderView} :
    v ∈ os ↔ ∃ r ∈ l.listing filter, l.viewOf? viewer (l.listing filter) r = .ok v := by
  have hmap : (l.listing filter).map (l.viewOf? viewer (l.listing filter)) = os.map .ok := by
    rw [← List.forall₂_eq_eq_eq, List.forall₂_map_left_iff, List.forall₂_map_right_iff]
    exact h
  have hmem : v ∈ os ↔ Except.ok v ∈ os.map (Except.ok (ε := UnknownCode)) := by simp
  rw [hmem, ← hmap, List.mem_map]

theorem Shows.listsExactly (hw : l.WellFormed) {os : List OrderView}
    (h : l.Shows viewer filter os) :
    l.ListsExactly (fun o p => filter.accepts ⟨o, p.offer, p.available⟩)
      (fun o p v => ∃ s : OrderStatus, o.status = s.code ∧ l.viewFor viewer o p s = v) (·.id) os where
  decreasing := (h.pairwise_iff fun a b => b.1 < a.1).mpr (listing_pairwise hw filter)
  mem_iff v := by
    rw [h.mem_iff]
    constructor
    · rintro ⟨r, hr, hv⟩
      obtain ⟨o, p, hjoins, haccepts, rfl⟩ := mem_listing_iff_joins.mp hr
      obtain ⟨s, hs⟩ := hjoins.status hw
      rw [viewOf?_eq hr hs] at hv
      exact ⟨o, p, hjoins, haccepts, s, hs, Except.ok.inj hv⟩
    · rintro ⟨o, p, hjoins, haccepts, s, hs, rfl⟩
      have hr : ⟨o, p.offer, p.available⟩ ∈ l.listing filter :=
        mem_listing_iff_joins.mpr ⟨o, p, hjoins, haccepts, rfl⟩
      exact ⟨_, hr, viewOf?_eq hr hs⟩

theorem perform_state_of_listing {call : OrderCall} (reads : call.isListing) (now : Instant)
    (l : Ledger) : (l.perform now call).state = l := by
  have he := perform_effect now call l
  generalize (l.perform now call).result = r at he
  generalize (l.perform now call).state = l' at he
  cases he with
  | refused | listed => rfl
  | added | recounted | moved | bought | deleted => cases reads

/-- The order stands in the basket or beyond it, and in one of the two only. -/
theorem Joins.isInBasket_iff (h : l.Joins o p) (hw : l.WellFormed) :
    o.isInBasket ↔ ¬ o.hasLeftBasket := by
  obtain ⟨s, hs⟩ := h.status hw
  simp only [StoredOrder.isInBasket, StoredOrder.hasLeftBasket, hs]
  cases s <;> decide

/-- An order that passes the filter of a listing is in it. -/
theorem ListsExactly.mem_ids_iff {α : Type} {P : StoredOrder → Product → Prop}
    {Shown : StoredOrder → Product → α → Prop} {key : α → OrderId} {xs : List α} (hw : l.WellFormed)
    (h : l.ListsExactly P Shown key xs) (hkey : ∀ o p x, Shown o p x → key x = o.id)
    (hshown : ∀ o p, l.Joins o p → ∃ x, Shown o p x) (hjoins : l.Joins o p) :
    o.id ∈ xs.map key ↔ P o p := by
  rw [List.mem_map]
  constructor
  · rintro ⟨x, hx, hid⟩
    obtain ⟨o', p', hjoins', hP, hx⟩ := (h.mem_iff x).mp hx
    rw [hkey o' p' x hx] at hid
    -- Two orders of one identifier are the same row, and so are their products.
    obtain ⟨⟨i, ho⟩, hp⟩ := hjoins
    obtain ⟨⟨k, ho'⟩, hp'⟩ := hjoins'
    rw [(hw.orders ho).id_eq, (hw.orders ho').id_eq] at hid
    subst hid
    obtain rfl := Option.some.inj (ho'.symm.trans ho)
    obtain rfl := Option.some.inj (hp'.symm.trans hp)
    exact hP
  · intro hP
    obtain ⟨x, hx⟩ := hshown o p hjoins
    exact ⟨x, (h.mem_iff x).mpr ⟨o, p, hjoins, hP, hx⟩, hkey o p x hx⟩

/-- An order beyond the basket is shown alike to its buyer and its saler, favourites apart. -/
theorem Joins.shown_to_both (h : l.Joins o p) (hw : l.WellFormed) (hleft : o.hasLeftBasket)
    (now : Instant) : ∃ bought sold view,
      (l.perform now (.bought o.owner)).result = .ok (.orders bought) ∧
      (l.perform now (.sold p.offer.saler)).result = .ok (.orders sold) ∧
      view.id = o.id ∧ view ∈ bought ∧
      { view with isFavourite := l.favourites.contains (p.offer.saler, o.product) } ∈ sold := by
  obtain ⟨s, hs⟩ := h.status hw
  obtain ⟨bought, hbought, hresult⟩ := perform_bought hw now o.owner
  obtain ⟨sold, hsold, hresult'⟩ := perform_sold hw now p.offer.saler
  refine ⟨bought, sold, l.viewFor o.owner o p s, hresult, hresult', rfl, ?_, ?_⟩
  · refine ((hbought.listsExactly hw).mem_iff _).mpr ⟨o, p, h, ?_, s, hs, rfl⟩
    simpa [OrderFilter.accepts] using hleft
  · refine ((hsold.listsExactly hw).mem_iff _).mpr ⟨o, p, h, ?_, s, hs, rfl⟩
    simpa [OrderFilter.accepts] using hleft

/-- **The listings are exact.** In a ledger that can arise, the three listings of a user never fail
and change nothing. By decreasing identifier, each once, they show the orders whose product is
there: those in the user's basket, those that have left it, and those beyond the basket of the
products that the user sells now. An entry has the fields of its order, the current ones of its
product with the image that was added first, and the viewer's own favourites. So each order of the
user with a product is in exactly one of the buyer's two listings, and one beyond the basket is shown
alike to buyer and saler, favourites apart. -/
theorem exact_listings (events : List OrderEvent) (now : Instant) (user : UserId) :
    let l := empty.replay events
    (∃ basket bought sold,
      (l.perform now (.basket user)).result = .ok (.entries basket) ∧
      (l.perform now (.bought user)).result = .ok (.orders bought) ∧
      (l.perform now (.sold user)).result = .ok (.orders sold) ∧
      l.ListsExactly (fun o _ => o.owner = user ∧ o.isInBasket)
        (fun o p e => l.entryFor user o p = e) (·.id) basket ∧
      l.ListsExactly (fun o _ => o.owner = user ∧ o.hasLeftBasket)
        (fun o p v => ∃ s : OrderStatus, o.status = s.code ∧ l.viewFor user o p s = v) (·.id)
        bought ∧
      l.ListsExactly (fun o p => p.offer.saler = user ∧ o.hasLeftBasket)
        (fun o p v => ∃ s : OrderStatus, o.status = s.code ∧ l.viewFor user o p s = v) (·.id)
        sold ∧
      ∀ o p, l.Joins o p → o.owner = user →
        (o.id ∈ basket.map (·.id) ↔ o.id ∉ bought.map (·.id))) ∧
    (∀ call ∈ [OrderCall.basket user, .bought user, .sold user], (l.perform now call).state = l) ∧
    (∀ id, l.firstImage? id = firstImageAdded id events) ∧
    ∀ o p, l.Joins o p → o.hasLeftBasket → ∃ bought sold view,
      (l.perform now (.bought o.owner)).result = .ok (.orders bought) ∧
      (l.perform now (.sold p.offer.saler)).result = .ok (.orders sold) ∧
      view.id = o.id ∧ view ∈ bought ∧
      { view with isFavourite := l.favourites.contains (p.offer.saler, o.product) } ∈ sold := by
  intro l
  have hw : l.WellFormed := WellFormed.empty.replay events
  refine ⟨?_, fun call hcall => ?_, fun id => ?_, fun o p hjoins hleft => ?_⟩
  · obtain ⟨bought, hbought, hresult⟩ := perform_bought hw now user
    obtain ⟨sold, hsold, hresult'⟩ := perform_sold hw now user
    have hbasket := basket_listsExactly hw user
    have hbought := hbought.listsExactly hw
    have hsold := hsold.listsExactly hw
    simp only [OrderFilter.accepts, Bool.and_eq_true, decide_eq_true_eq] at hbought hsold
    refine ⟨_, bought, sold, perform_basket now user l, hresult, hresult', hbasket, hbought, hsold,
      fun o p hjoins howner => ?_⟩
    have hshown (o : StoredOrder) (p : Product) (h : l.Joins o p) :
        ∃ v, ∃ s : OrderStatus, o.status = s.code ∧ l.viewFor user o p s = v := by
      obtain ⟨s, hs⟩ := h.status hw
      exact ⟨_, s, hs, rfl⟩
    rw [hbasket.mem_ids_iff hw (by rintro _ _ _ rfl; rfl) (fun _ _ _ => ⟨_, rfl⟩) hjoins,
      hbought.mem_ids_iff hw (by rintro _ _ _ ⟨_, -, rfl⟩; rfl) hshown hjoins,
      hjoins.isInBasket_iff hw]
    simp [howner]
  · have reads : call.isListing := by
      simp only [List.mem_cons, List.not_mem_nil, or_false] at hcall
      rcases hcall with rfl | rfl | rfl <;> rfl
    exact perform_state_of_listing reads now l
  · have h := firstImage?_replay empty events id
    rw [h]
    rfl
  · exact hjoins.shown_to_both hw hleft now

/-- A kettle with two images is the buyer's favourite; one of two orders is paid. -/
def dressedShop : List OrderEvent :=
  [.putProduct kettles, .addImage 1 "front", .addImage 1 "back", .addFavourite 7 1,
    .call .epoch (.add 7 1 4), .call .epoch (.add 7 1 3), .call .epoch (.setStatus 7 1 .paid)]

theorem exact_listings_shop :
    let l := empty.replay dressedShop
    let paid := StoredOrder.moved (.fresh 1 7 1 4 .epoch) .paid .epoch
    l.Joins paid { kettles with available := 6 } ∧ paid.hasLeftBasket ∧
      l.firstImage? 1 = some "front" ∧ ∃ bought sold view,
        (l.perform .epoch (.bought 7)).result = .ok (.orders bought) ∧
        (l.perform .epoch (.sold 8)).result = .ok (.orders sold) ∧
        view.id = 1 ∧ view ∈ bought ∧ { view with isFavourite := false } ∈ sold := by
  intro l paid
  have hjoins : l.Joins paid { kettles with available := 6 } := ⟨⟨1, by decide⟩, by decide⟩
  have hleft : paid.hasLeftBasket := by decide
  have hfirst : firstImageAdded 1 dressedShop = some "front" := by decide
  obtain ⟨-, -, himage, hshown⟩ := exact_listings dressedShop .epoch 7
  obtain ⟨bought, sold, view, hbought, hsold, hid, hview, hview'⟩ := hshown paid _ hjoins hleft
  have hfavourite : l.favourites.contains (kettles.offer.saler, paid.product) = false := by decide
  rw [hfavourite] at hview'
  refine ⟨hjoins, hleft, (himage 1).trans hfirst, bought, sold, view, hbought, hsold, hid, ?_⟩
  exact ⟨hview, hview'⟩

end Ledger

end Marketplace
