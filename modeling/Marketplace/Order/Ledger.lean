import Marketplace.Order.Query

/-!
# Orders kept in memory

A `Ledger` holds products, orders, images and favourites, and the identifier that was given last.

* `Ledger.answer` answers the questions of a unit of work, with one reading of the clock.
* `Ledger.transact` runs work on a copy of the ledger, which takes the ledger's place only when the
  work succeeds.
-/

namespace Marketplace

/-- All that the order service keeps. -/
structure Ledger where
  products : Table Product
  orders : Table StoredOrder
  /-- Images in the order in which they were added. -/
  images : List (ProductId × String)
  favourites : List (UserId × ProductId)
  /-- The identifier that was given last; the next order gets the one after it. -/
  lastOrder : OrderId

namespace Ledger

def empty : Ledger := ⟨∅, ∅, [], [], 0⟩

/-! ## Seeding -/

/-- Inserts a product, in place of one with its identifier. -/
def putProduct (l : Ledger) (p : Product) : Ledger :=
  { l with products := l.products.insert p.id p }

def removeProduct (l : Ledger) (id : ProductId) : Ledger :=
  { l with products := l.products.erase id }

/-- Adds an image behind those there are. -/
def addImage (l : Ledger) (id : ProductId) (url : String) : Ledger :=
  { l with images := l.images ++ [(id, url)] }

def addFavourite (l : Ledger) (user : UserId) (id : ProductId) : Ledger :=
  { l with favourites := (user, id) :: l.favourites }

/-! ## Views -/

/-- An order next to its product, if that exists. -/
def row? (l : Ledger) (o : StoredOrder) : Option OrderRow :=
  (l.products.get? o.product).map fun p => ⟨o, p.offer, p.available⟩

/-- This owner's order in the basket. -/
def basketOrder? (l : Ledger) (order : OrderId) (owner : UserId) : Option StoredOrder :=
  (l.orders.get? order).filter fun o => o.owner = owner ∧ o.isInBasket

/-- The first image of a product. -/
def firstImage? (l : Ledger) (id : ProductId) : Option String :=
  (l.images.find? (·.1 = id)).map (·.2)

/-- The rows of a listing, by decreasing identifier. -/
def listing (l : Ledger) (filter : OrderFilter) : List OrderRow :=
  ((l.orders.values.filterMap l.row?).filter filter.accepts).reverse

/-- The first images of those of these products that have one. -/
def firstImages (l : Ledger) (ids : List ProductId) : Table String :=
  ids.foldl (fun t id => match l.firstImage? id with
    | some url => t.insert id url
    | none => t) ∅

/-! ## Transactions -/

/-- Answers one question, with the clock at `now`. -/
def answer (now : Instant) : {β : Type} → OrderQuery β → Ledger → Outcome Ledger OrderError β
  | _, .lockProduct id, l => .ok (l.products.get? id) l
  | _, .decrementStock id count, l =>
    match (l.products.get? id).filter (count ≤ ·.available) with
    | some p =>
      let rest := { p with available := p.available - count }
      .ok 1 { l with products := l.products.insert id rest }
    | none => .ok 0 l
  | _, .insertOrder o, l =>
    if l.lastOrder = Int64.maxValue then .error .identifiersUsedUp l
    else
      let id := l.lastOrder + 1
      let order := ⟨id, o.owner, o.product, o.count, o.status, now, now⟩
      .ok (id, now) { l with orders := l.orders.insert id order, lastOrder := id }
  | _, .lockOrder order owner, l =>
    match (l.orders.get? order).filter (·.owner = owner) with
    | some o =>
      match OrderStatus.ofCode? o.status with
      | .ok status => .ok (some ⟨status, o.count, o.product⟩) l
      | .error e => .error (.unknownStatus e) l
    | none => .ok none l
  | _, .writeStatus order source target, l =>
    match (l.orders.get? order).filter (·.status = source.code) with
    | some o =>
      let moved := { o with status := target.code, updatedAt := now }
      .ok 1 { l with orders := l.orders.insert order moved }
    | none => .ok 0 l
  | _, .writeCount order owner count, l =>
    match l.basketOrder? order owner with
    | some o => .ok 1 { l with orders := l.orders.insert order { o with count, updatedAt := now } }
    | none => .ok 0 l
  | _, .deleteBasketOrder order owner, l =>
    match l.basketOrder? order owner with
    | some _ => .ok 1 { l with orders := l.orders.erase order }
    | none => .ok 0 l
  | _, .basketOrderIds owner, l =>
    .ok ((l.orders.values.filter fun o => o.owner = owner ∧ o.isInBasket).map (·.id)) l
  | _, .loadOrders filter, l => .ok (l.listing filter) l
  | _, .firstImages ids, l => .ok (l.firstImages ids) l
  | _, .favourites owner ids, l => .ok (ids.filter fun id => (owner, id) ∈ l.favourites) l

/-- Runs work as one transaction: an error leaves the ledger as it was. -/
def transact {α : Type} (now : Instant) (work : OrderWork α) (l : Ledger) :
    Outcome Ledger OrderError α :=
  let o := work.run (answer now) l
  match o.result with
  | .ok _ => o
  | .error _ => { o with state := l }

end Ledger

end Marketplace
