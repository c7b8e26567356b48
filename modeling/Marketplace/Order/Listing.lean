import Marketplace.Order.Query

/-!
# Listings of orders

A listing loads its rows, then asks once for the images and once for the viewer's favourites of all
products in them.
-/

namespace Marketplace

/-- These keys in increasing order, each once. -/
def distinct (keys : List Int64) : List Int64 :=
  (keys.foldl (fun t k => t.insert k ()) (∅ : Table Unit)).keys

/-- What a listing adds to its rows. -/
structure Adornment where
  images : Table String
  favourites : List ProductId

namespace Adornment

/-- The image of a row's product. -/
def image (a : Adornment) (r : OrderRow) : Option String := a.images.get? r.order.product

/-- Whether a row's product is a favourite. -/
def isFavourite (a : Adornment) (r : OrderRow) : Bool := a.favourites.contains r.order.product

end Adornment

/-- The images and the viewer's favourites for some rows; nothing is asked for no rows. -/
def adorn (viewer : UserId) (rows : List OrderRow) : OrderWork Adornment := do
  let products := distinct (rows.map (·.order.product))
  if products = [] then return ⟨∅, []⟩
  else
    let images ← Work.query (.firstImages products)
    let favourites ← Work.query (.favourites viewer products)
    return ⟨images, favourites⟩

/-- The entries of a basket. -/
def basketEntries (owner : UserId) : OrderWork (List BasketEntry) := do
  let rows ← Work.query (.loadOrders (.inBasket owner))
  let a ← adorn owner rows
  return rows.map fun r => r.basketEntry (a.image r) (a.isFavourite r)

/-- The orders that pass a filter, as `viewer` sees them. The first row with a status that means
nothing fails them all. -/
def listOrders (filter : OrderFilter) (viewer : UserId) : OrderWork (List OrderView) := do
  let rows ← Work.query (.loadOrders filter)
  let a ← adorn viewer rows
  let views := rows.mapM fun r => r.view? (a.image r) (a.isFavourite r)
  Work.ofExcept (views.mapError .unknownStatus)

end Marketplace
