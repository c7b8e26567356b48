import Marketplace.Order.Call
import Marketplace.Sql.Server

/-!
# Orders kept in a database

* `OrderQuery.statement` is the statement that asks a question, with the clock at a given instant,
  and `OrderQuery.readReply` reads the reply.
* `performOrder` runs a call of the order service as one transaction on a server.
-/

namespace Marketplace

open Sql

/-! ## Rows -/

/-- A product from the columns that `Sql.productColumns` lists. -/
def Product.ofRow? : RowReader Product
  | [id, saler, title, price, city, available, delivery, safeDeal, isActive] => do
    let id ← id.int64?
    let saler ← saler.int64?
    let title ← title.string?
    let price ← price.price?
    let city ← city.string?
    let available ← available.int32?
    let delivery ← delivery.bool?
    let safeDeal ← safeDeal.bool?
    let isActive ← isActive.bool?
    return ⟨id, ⟨saler, title, price, city, delivery, safeDeal⟩, available, isActive⟩
  | _ => .error wrongType

/-- An order from the columns that `Sql.orderColumns` lists. -/
def OrderRow.ofRow? : RowReader OrderRow
  | [id, owner, product, count, status, createdAt, updatedAt, saler, title, price, city, available,
      delivery, safeDeal] => do
    let id ← id.int64?
    let owner ← owner.int64?
    let product ← product.int64?
    let count ← count.int32?
    let status ← status.int16?
    let createdAt ← createdAt.instant?
    let updatedAt ← updatedAt.instant?
    let saler ← saler.int64?
    let title ← title.string?
    let price ← price.price?
    let city ← city.string?
    let available ← available.int32?
    let delivery ← delivery.bool?
    let safeDeal ← safeDeal.bool?
    return ⟨⟨id, owner, product, count, status, createdAt, updatedAt⟩,
      ⟨saler, title, price, city, delivery, safeDeal⟩, available⟩
  | _ => .error wrongType

/-- The identifier and the time of a new order. -/
def newOrderRow : RowReader (OrderId × Instant)
  | [id, createdAt] => do return (← id.int64?, ← createdAt.instant?)
  | _ => .error wrongType

/-- Status code, count and product of an order. -/
def heldOrderRow : RowReader (Int16 × Int32 × ProductId)
  | [status, count, product] => do return (← status.int16?, ← count.int32?, ← product.int64?)
  | _ => .error wrongType

/-- A product and the address of an image of it. -/
def imageRow : RowReader (ProductId × String)
  | [product, url] => do return (← product.int64?, ← url.string?)
  | _ => .error wrongType

/-- The first image of each product among some rows. -/
def firstOfEach (rows : List (ProductId × String)) : Table String :=
  rows.foldl (fun t r => if (t.get? r.1).isSome then t else t.insert r.1 r.2) ∅

/-! ## Statements -/

namespace Sql

/-- The columns of a product. -/
def productColumns : String :=
  "\"product\".\"id\", \"product\".\"saler_id\", \"product\".\"title\", \"product\".\"price\", "
    ++ "\"product\".\"city\", \"product\".\"available_count\", \"product\".\"delivery\", "
    ++ "\"product\".\"safe_deal\", \"product\".\"is_active\""

/-- The columns of an order next to its product, and where they come from. -/
def orderColumns : String :=
  "\"orders\".\"id\", \"orders\".\"owner_id\", \"orders\".\"product_id\", \"orders\".\"count\", "
    ++ "\"orders\".\"status\", \"orders\".\"created_at\", \"orders\".\"updated_at\", "
    ++ "\"product\".\"saler_id\", \"product\".\"title\", \"product\".\"price\", "
    ++ "\"product\".\"city\", \"product\".\"available_count\", \"product\".\"delivery\", "
    ++ "\"product\".\"safe_deal\" FROM (\"orders\" INNER JOIN \"product\" ON "
    ++ "(\"orders\".\"product_id\" = \"product\".\"id\"))"

def lockProduct (product : ProductId) : Statement :=
  .bound ("SELECT " ++ productColumns
    ++ " FROM \"product\" WHERE (\"product\".\"id\" = $1) FOR UPDATE")
    [.integer product.toInt]

def decrementStock (product : ProductId) (count : Int32) : Statement :=
  .bound ("UPDATE \"product\" SET \"available_count\" = (\"product\".\"available_count\" - $1) "
    ++ "WHERE ((\"product\".\"id\" = $2) AND (\"product\".\"available_count\" >= $3))")
    [.integer count.toInt, .integer product.toInt, .integer count.toInt]

def insertOrder (o : NewOrder) : Statement :=
  .bound ("INSERT INTO \"orders\" (\"owner_id\", \"product_id\", \"count\", \"status\") "
    ++ "VALUES ($1, $2, $3, $4) RETURNING \"orders\".\"id\", \"orders\".\"created_at\"")
    [.integer o.owner.toInt, .integer o.product.toInt, .integer o.count.toInt,
      .integer o.status.toInt]

def lockOrder (order : OrderId) (owner : UserId) : Statement :=
  .bound ("SELECT \"orders\".\"status\", \"orders\".\"count\", \"orders\".\"product_id\" "
    ++ "FROM \"orders\" WHERE ((\"orders\".\"id\" = $1) AND (\"orders\".\"owner_id\" = $2)) "
    ++ "FOR UPDATE")
    [.integer order.toInt, .integer owner.toInt]

def writeStatus (now : Instant) (order : OrderId) (source target : OrderStatus) : Statement :=
  .bound ("UPDATE \"orders\" SET \"status\" = $1, \"updated_at\" = $2 "
    ++ "WHERE ((\"orders\".\"id\" = $3) AND (\"orders\".\"status\" = $4))")
    [.integer target.code.toInt, .time now.toMicros, .integer order.toInt,
      .integer source.code.toInt]

def writeCount (now : Instant) (order : OrderId) (owner : UserId) (count : Int32) : Statement :=
  .bound ("UPDATE \"orders\" SET \"count\" = $1, \"updated_at\" = $2 "
    ++ "WHERE (((\"orders\".\"id\" = $3) AND (\"orders\".\"owner_id\" = $4)) "
    ++ "AND (\"orders\".\"status\" = $5))")
    [.integer count.toInt, .time now.toMicros, .integer order.toInt, .integer owner.toInt,
      .integer OrderStatus.inBasket.code.toInt]

def deleteBasketOrder (order : OrderId) (owner : UserId) : Statement :=
  .bound ("DELETE FROM \"orders\" WHERE (((\"orders\".\"id\" = $1) "
    ++ "AND (\"orders\".\"owner_id\" = $2)) AND (\"orders\".\"status\" = $3))")
    [.integer order.toInt, .integer owner.toInt, .integer OrderStatus.inBasket.code.toInt]

def basketOrderIds (owner : UserId) : Statement :=
  .bound ("SELECT \"orders\".\"id\" FROM \"orders\" WHERE ((\"orders\".\"owner_id\" = $1) "
    ++ "AND (\"orders\".\"status\" = $2)) ORDER BY \"orders\".\"id\" ASC")
    [.integer owner.toInt, .integer OrderStatus.inBasket.code.toInt]

/-- The orders that pass a filter, the latest first. -/
def loadOrders (filter : OrderFilter) : Statement :=
  let (user, condition, time) : UserId × String × String :=
    match filter with
    | .inBasket owner => (owner, "(\"orders\".\"owner_id\" = $1) AND (\"orders\".\"status\" = $2)",
        "\"orders\".\"created_at\"")
    | .notInBasket owner =>
      (owner, "(\"orders\".\"owner_id\" = $1) AND (\"orders\".\"status\" > $2)",
        "\"orders\".\"updated_at\"")
    | .soldBy saler => (saler, "(\"product\".\"saler_id\" = $1) AND (\"orders\".\"status\" > $2)",
        "\"orders\".\"updated_at\"")
  .bound ("SELECT " ++ orderColumns ++ " WHERE (" ++ condition ++ ") ORDER BY " ++ time ++ " DESC")
    [.integer user.toInt, .integer OrderStatus.inBasket.code.toInt]

def firstImages (products : List ProductId) : Statement :=
  .bound ("SELECT \"product_images\".\"product_id\", \"product_images\".\"url\" "
    ++ "FROM \"product_images\" WHERE (\"product_images\".\"product_id\" = ANY($1)) "
    ++ "ORDER BY \"product_images\".\"id\" ASC")
    [.integers products]

def favourites (owner : UserId) (products : List ProductId) : Statement :=
  .bound ("SELECT \"favourites\".\"product_id\" FROM \"favourites\" "
    ++ "WHERE ((\"favourites\".\"owner_id\" = $1) AND (\"favourites\".\"product_id\" = ANY($2)))")
    [.integer owner.toInt, .integers products]

end Sql

namespace OrderQuery

/-- The statement that asks a question. -/
def statement (now : Instant) : {β : Type} → OrderQuery β → Statement
  | _, lockProduct product => Sql.lockProduct product
  | _, decrementStock product count => Sql.decrementStock product count
  | _, insertOrder order => Sql.insertOrder order
  | _, lockOrder order owner => Sql.lockOrder order owner
  | _, writeStatus order source target => Sql.writeStatus now order source target
  | _, writeCount order owner count => Sql.writeCount now order owner count
  | _, deleteBasketOrder order owner => Sql.deleteBasketOrder order owner
  | _, basketOrderIds owner => Sql.basketOrderIds owner
  | _, loadOrders filter => Sql.loadOrders filter
  | _, firstImages products => Sql.firstImages products
  | _, favourites owner products => Sql.favourites owner products

/-- Reads the reply to the statement. -/
def readReply : {β : Type} → OrderQuery β → Reply → Except OrderError β
  | _, lockProduct _, r => (r.first? Product.ofRow?).mapError .storage
  | _, decrementStock _ _, r => r.affected?.mapError .storage
  | _, insertOrder _, r => (r.single? newOrderRow).mapError .storage
  | _, lockOrder _ _, r => do
    match ← (r.first? heldOrderRow).mapError .storage with
    | none => return none
    | some (code, count, product) =>
      let status ← (OrderStatus.ofCode? code).mapError .unknownStatus
      return some ⟨status, count, product⟩
  | _, writeStatus _ _ _, r => r.affected?.mapError .storage
  | _, writeCount _ _ _, r => r.affected?.mapError .storage
  | _, deleteBasketOrder _ _, r => r.affected?.mapError .storage
  | _, basketOrderIds _, r => (r.rows? (singleColumn Value.int64?)).mapError .storage
  | _, loadOrders _, r => (r.rows? OrderRow.ofRow?).mapError .storage
  | _, firstImages _, r => ((r.rows? imageRow).map firstOfEach).mapError .storage
  | _, favourites _ _, r => (r.rows? (singleColumn Value.int64?)).mapError .storage

end OrderQuery

/-- Runs work on a server as one transaction, with the clock at `now`. -/
def transactOrders {σ α : Type} (server : Server σ) (now : Instant) (work : OrderWork α) :
    σ → Outcome σ OrderError α :=
  transact server .storage OrderError.isCrash
    (work.run (answerFrom server (OrderQuery.statement now) OrderQuery.readReply))

/-- One call on a server, with the clock at `now`. -/
def performOrder {σ : Type} (server : Server σ) (now : Instant) (call : OrderCall) (s : σ) :
    Outcome σ OrderError OrderAnswer :=
  call.announce (transactOrders server now call.work s)

end Marketplace
